import DeviceStandby.Strategy.Rebuild

/-!
# The state outside the strategies

What the platform and the service answer a strategy is here computed from a state that messages
change: the allow list, the background tasks and the processes (`External`), beside what stays as it
is (`World`). A strategy that follows the messages can so be compared with one that builds its
record anew. Every uid runs one bundle, and every call succeeds.
-/

namespace DeviceStandby

open ExemptionTypeFlag AssocMap

/-- What no message changes: the apps, the foreground, the configuration and the day or night. -/
structure World where
  bundleOf : Int → String
  /-- The uids of `GetApplicationInfos` of all users. -/
  installed : List Int
  /-- Those of `SPECIAL_USERID`. -/
  special : List Int
  isSystemApp : Int → Bool
  foreground : List Int
  /-- The names that the configuration allows, and those that it restricts. -/
  persistAllowed : AllowType → List String
  restricted : AllowType → List String
  condition : ConditionType

/-- A background task of an app. -/
structure BgTask where
  type : String
  uid : Int
  typeId : Int
  deriving DecidableEq

/-- What messages report: the apps with a temporary allowance, by uid and name, the tasks and the
processes. -/
structure External where
  granted : AllowType → List (Int × String) := fun _ => []
  tasks : List BgTask := []
  processes : List RunningProcessInfo := []

/-- The messages about apps. -/
def StandbyMessage.isAboutApp : StandbyMessage → Bool
  | .allowListChanged .. | .bgTaskStatusChange .. | .processStateChanged .. => true
  | _ => false

namespace External

/-- The state that a message reports. -/
def update (message : StandbyMessage) (e : External) : External :=
  match message with
  | .allowListChanged uid name allowType added =>
    { e with
      granted := fun t =>
        if allowType &&& t.mask = 0 then e.granted t
        else if added then (e.granted t).insert (uid, name)
        else (e.granted t).filter (· ≠ (uid, name)) }
  | .bgTaskStatusChange type true uid _ typeId => { e with tasks := ⟨type, uid, typeId⟩ :: e.tasks }
  | .bgTaskStatusChange type false uid _ typeId =>
    { e with tasks := e.tasks.erase ⟨type, uid, typeId⟩ }
  | .processStateChanged uid pid name true =>
    if e.processes.any fun info => info.uid = uid ∧ info.pid = pid then e
    else { e with processes := ⟨name, uid, pid⟩ :: e.processes }
  | .processStateChanged uid pid _ false =>
    { e with processes := e.processes.filter fun info => ¬ (info.uid = uid ∧ info.pid = pid) }
  | _ => e

/-- The state after a sequence of messages. -/
def updates (messages : List StandbyMessage) (e : External) : External :=
  messages.foldl (fun e message => e.update message) e

/-- A process of the uid runs. -/
def Runs (e : External) (uid : Int) : Prop :=
  ∃ info ∈ e.processes, info.uid = uid

/-- The app has a task of a type. -/
def HasTask (e : External) (type : String) (uid : Int) : Prop :=
  ∃ task ∈ e.tasks, task.type = type ∧ task.uid = uid

instance (e : External) (uid : Int) : Decidable (e.Runs uid) :=
  inferInstanceAs (Decidable (∃ info ∈ e.processes, info.uid = uid))

instance (e : External) (type : String) (uid : Int) : Decidable (e.HasTask type uid) :=
  inferInstanceAs (Decidable (∃ task ∈ e.tasks, task.type = type ∧ task.uid = uid))

variable {e : External} {uid uid' pid : Int} {name type type' : String} {t : AllowType}

/-- A task that is reported to start is there, beside those that were there before. -/
theorem hasTask_start (bundleName : String) (typeId : Int) :
    (e.update (.bgTaskStatusChange type true uid bundleName typeId)).HasTask type' uid' ↔
      (type' = type ∧ uid' = uid) ∨ e.HasTask type' uid' := by
  simp only [HasTask, update, List.mem_cons, exists_eq_or_imp, eq_comm]

/-- A report that a task has stopped says nothing of the tasks of other apps or types. -/
theorem hasTask_stop (bundleName : String) (typeId : Int) (h : ¬ (type' = type ∧ uid' = uid)) :
    (e.update (.bgTaskStatusChange type false uid bundleName typeId)).HasTask type' uid' ↔
      e.HasTask type' uid' := by
  simp only [HasTask, update]
  constructor
  · rintro ⟨task, hmem, htask⟩
    exact ⟨task, List.mem_of_mem_erase hmem, htask⟩
  · rintro ⟨task, hmem, rfl, rfl⟩
    refine ⟨task, (List.mem_erase_of_ne ?_).2 hmem, rfl, rfl⟩
    rintro rfl
    exact h ⟨rfl, rfl⟩

/-- A report about one task says nothing of the others. -/
theorem hasTask_other {started : Bool} (bundleName : String) (typeId : Int)
    (h : ¬ (type' = type ∧ uid' = uid)) :
    (e.update (.bgTaskStatusChange type started uid bundleName typeId)).HasTask type' uid' ↔
      e.HasTask type' uid' := by
  cases started with
  | true => rw [hasTask_start, or_iff_right h]
  | false => exact hasTask_stop _ _ h

/-- A report about a task says nothing of the processes. -/
theorem processes_task {started : Bool} (bundleName : String) (typeId : Int) :
    (e.update (.bgTaskStatusChange type started uid bundleName typeId)).processes =
      e.processes := by
  cases started <;> rfl

/-- A process that is created has no part in the tasks. -/
theorem tasks_created : (e.update (.processStateChanged uid pid name true)).tasks = e.tasks := by
  rw [update]
  split_ifs <;> rfl

/-- A process that is created has no part in the temporary allowances. -/
theorem granted_created :
    (e.update (.processStateChanged uid pid name true)).granted = e.granted := by
  rw [update]
  split_ifs <;> rfl

/-- A uid runs once one of its processes is created. A process reported twice is held once. -/
theorem runs_created : (e.update (.processStateChanged uid pid name true)).Runs uid' ↔
    uid' = uid ∨ e.Runs uid' := by
  simp only [Runs, update]
  split_ifs with hmem
  · obtain ⟨info, hinfo, heq⟩ := List.any_eq_true.1 hmem
    have huid : info.uid = uid := (of_decide_eq_true heq).1
    refine ⟨.inr, ?_⟩
    rintro (rfl | hruns)
    · exact ⟨info, hinfo, huid⟩
    · exact hruns
  · simp only [List.mem_cons, exists_eq_or_imp, eq_comm]

/-- A process that dies leaves those of the other uids. -/
theorem runs_died (h : uid' ≠ uid) :
    (e.update (.processStateChanged uid pid name false)).Runs uid' ↔ e.Runs uid' := by
  simp only [Runs, update, List.mem_filter, decide_not, Bool.not_eq_true', decide_eq_false_iff_not]
  constructor
  · rintro ⟨info, ⟨hmem, -⟩, huid⟩
    exact ⟨info, hmem, huid⟩
  · rintro ⟨info, hmem, rfl⟩
    exact ⟨info, ⟨hmem, fun heq => h heq.1⟩, rfl⟩

/-- No uid begins to run when a process dies. -/
theorem runs_of_died (h : (e.update (.processStateChanged uid pid name false)).Runs uid') :
    e.Runs uid' := by
  obtain ⟨info, hmem, huid⟩ := h
  exact ⟨info, (List.mem_filter.1 hmem).1, huid⟩

end External

namespace World

/-- An application of the platform. -/
def application (w : World) (uid : Int) : ApplicationInfo :=
  ⟨w.bundleOf uid, uid, w.isSystemApp uid⟩

/-- A bundle is allowed: temporarily, or by the configuration. The messages carry no reason code, so
a grant is taken for one with `REASON_APP_API`, the only ones that the strategies ask for; and they
name a bundle, so a process is taken to carry the name of the bundle that its uid runs. -/
def allowNames (w : World) (e : External) (t : AllowType) : List String :=
  (e.granted t).map (·.2) ++ w.persistAllowed t

/-- The names of a message are those of the bundle that its uid runs. -/
def describes (w : World) : StandbyMessage → Bool
  | .allowListChanged uid name .. => name = w.bundleOf uid
  | .bgTaskStatusChange _ _ uid bundleName _ => bundleName = "" ∨ bundleName = w.bundleOf uid
  | .processStateChanged uid _ name _ => name = w.bundleOf uid
  | _ => false

/-- So are the names of the processes. -/
def Named (w : World) (e : External) : Prop :=
  ∀ info ∈ e.processes, info.processName = w.bundleOf info.uid

/-- Messages that name the bundle of their uid keep the processes named after their bundles. -/
theorem Named.update {w : World} {e : External} {message : StandbyMessage} (h : w.Named e)
    (hmessage : w.describes message = true) : w.Named (e.update message) := by
  cases message with
  | bgTaskStatusChange type started uid bundleName typeId => cases started <;> exact h
  | processStateChanged uid pid name isCreated =>
    have hname : name = w.bundleOf uid := of_decide_eq_true hmessage
    cases isCreated with
    | true =>
      simp only [External.update]
      split_ifs
      · exact h
      · intro info hmem
        rcases List.mem_cons.1 hmem with rfl | hmem
        · exact hname
        · exact h info hmem
    | false => exact fun info hmem => h info (List.mem_filter.1 hmem).1
  | _ => exact h

section
variable {w : World} {e : External} {uid : Int} {name name' : String} {allowType : BitVec 32}
  {t : AllowType}

/-- A report about a task says nothing of the allowances. -/
theorem allowNames_task {started : Bool} (bundleName : String) (typeId : Int) :
    w.allowNames (e.update (.bgTaskStatusChange type started uid bundleName typeId)) t =
      w.allowNames e t := by
  cases started <;> rfl

/-- A process that is created has no part in the names that are allowed. -/
theorem allowNames_created {pid : Int} :
    w.allowNames (e.update (.processStateChanged uid pid name true)) t = w.allowNames e t := by
  rw [allowNames, allowNames, External.granted_created]

/-- A bundle that is granted an allowance is allowed. -/
theorem mem_allowNames_added (h : allowType &&& t.mask ≠ 0) :
    name ∈ w.allowNames (e.update (.allowListChanged uid name allowType true)) t := by
  refine List.mem_append_left _ (List.mem_map.2 ⟨(uid, name), ?_, rfl⟩)
  simp only [External.update, if_neg h, if_true]
  exact List.mem_insert_self

/-- The allowances of the other bundles stay. -/
theorem mem_allowNames_other {added : Bool} (h : name' ≠ name) :
    name' ∈ w.allowNames (e.update (.allowListChanged uid name allowType added)) t ↔
      name' ∈ w.allowNames e t := by
  simp only [allowNames, List.mem_append, List.mem_map, External.update]
  refine or_congr_left ?_
  split_ifs
  · rfl
  · refine exists_congr fun grant => and_congr_left fun heq => ?_
    rw [List.mem_insert_iff]
    refine or_iff_right fun hg => h ?_
    rw [← heq, hg]
  · refine exists_congr fun grant => and_congr_left fun heq => ?_
    rw [List.mem_filter]
    refine and_iff_left (decide_eq_true fun hg => h ?_)
    rw [← heq, hg]

/-- The allowances of the other apps that run stay, if none of them has the bundle or the bundle is
allowed as before. -/
theorem allowNames_shared {added : Bool} {uid' : Int}
    (h : (name ∈ w.allowNames (e.update (.allowListChanged uid name allowType added)) t ↔
        name ∈ w.allowNames e t) ∨ ∀ uid', e.Runs uid' → w.bundleOf uid' = name → uid' = uid)
    (hk : uid' ≠ uid) (hruns : e.Runs uid') :
    w.bundleOf uid' ∈ w.allowNames (e.update (.allowListChanged uid name allowType added)) t ↔
      w.bundleOf uid' ∈ w.allowNames e t := by
  by_cases hbundle : w.bundleOf uid' = name
  · rw [hbundle]
    exact h.resolve_right fun hall => hk (hall uid' hruns hbundle)
  · exact mem_allowNames_other hbundle

/-- An allowance of other types changes nothing for this one. -/
theorem allowNames_of_mask {added : Bool} (h : allowType &&& t.mask = 0) :
    w.allowNames (e.update (.allowListChanged uid name allowType added)) t = w.allowNames e t := by
  simp only [allowNames, External.update, if_pos h]

end

/-- The uid is one of a system app. -/
def IsSystem (w : World) (uid : Int) : Prop :=
  uid ∈ w.installed ++ w.special ∧ w.isSystemApp uid = true

instance (w : World) (uid : Int) : Decidable (w.IsSystem uid) :=
  inferInstanceAs (Decidable (_ ∧ _))

/-- The tasks of a type. -/
def tasksOf (e : External) (type : String) : List BgTask :=
  e.tasks.filter (·.type = type)

/-- The answers of the platform and the service. -/
def queries (w : World) (e : External) : Queries where
  applicationInfos := some (w.installed.map w.application)
  applicationInfosSpecial := (w.installed ++ w.special).map w.application
  runningProcesses := some e.processes
  foregroundApplications := some (w.foreground.map fun uid => ⟨uid, w.bundleOf uid⟩)
  continuousTaskApps :=
    some ((tasksOf e "continuous_task").map fun task => ⟨task.uid, task.typeId⟩)
  transientTaskApps :=
    some ((tasksOf e "transient_task").map fun task => ⟨task.uid, w.bundleOf task.uid⟩)
  runningWorks :=
    some ((tasksOf e "work_scheduler").map fun task => ⟨task.uid, w.bundleOf task.uid⟩)
  allowNameList := w.allowNames e
  restrictSet t := (w.restricted t).filter (· ∉ w.allowNames e t)
  isSystemAppByUid uid := w.IsSystem uid
  appRunningState name := some (e.processes.any fun info => w.bundleOf info.uid = name)
  clientBundleName := w.bundleOf
  condition := w.condition

/-- The record that the network strategy builds anew. -/
def netApps (scfg : StrategyConfig) (w : World) (e : External) : NetLimitedApps :=
  (NetLimitedApps.initNetLimitedAppInfo scfg (w.queries e) ∅).2

/-- The record that the running lock strategy builds anew. -/
def lockApps (w : World) (e : External) : ProxyRecord :=
  (ProxyRecord.initProxiedAppInfo (w.queries e)).getD {}

end World

/-! ## The flags of a rebuilt app -/

/-- The flags of an app with those that the configuration sets. -/
def configuredFlag (allowed restricted conditional : Prop) [Decidable allowed]
    [Decidable restricted] [Decidable conditional] (flag : ExemptionFlag) : ExemptionFlag :=
  let flag := flag ||| flagIf allowed EXEMPTION ||| flagIf restricted RESTRICTED
  if conditional ∧ flag &&& ~~~UNRESTRICTED = 0 then flag ||| RESTRICTED else flag

/-- The platform reports neither EXEMPTION nor RESTRICTED. -/
abbrev IsReported (flag : ExemptionFlag) : Prop :=
  flag &&& (EXEMPTION ||| RESTRICTED) = 0

/-- The app that is built anew has the flags that its name is configured for, over those of the
platform. -/
theorem NetLimitedApps.appOf_eq (scfg : StrategyConfig) (q : Queries) (name : String)
    (flag : ExemptionFlag) :
    appOf scfg q name flag =
      { name := name
        appExemptionFlag := configuredFlag (name ∈ q.allowNameList .network)
          (name ∈ q.restrictSet .network) (name ∈ scfg.conditionalRestrictNetApp) flag } := by
  unfold appOf getExemptionConfigForApp
  dsimp only
  rw [← NetLimtedAppInfo.addFlag_flagIf, ← NetLimtedAppInfo.addFlag_flagIf]
  unfold restrictConditionally configuredFlag NetLimtedAppInfo.addFlag
  dsimp only
  split_ifs <;> rfl

namespace World
variable {w : World} {e : External} {uid : Int}

/-- The flags that the platform's lists give an app. Continuous tasks count or not. -/
def reported (w : World) (counted : Prop) [Decidable counted] (e : External) (uid : Int) :
    ExemptionFlag :=
  flagIf (w.IsSystem uid) UNRESTRICTED |||
  (flagIf (uid ∈ w.foreground) FOREGROUND_APP |||
  (flagIf (counted ∧ e.HasTask "continuous_task" uid) CONTINUOUS_TASK |||
  (flagIf (e.HasTask "transient_task" uid) TRANSIENT_TASK |||
  flagIf (e.HasTask "work_scheduler" uid) WORK_SCHEDULER)))

/-- The platform's lists give neither the exemption nor the restriction. -/
theorem isReported_reported (w : World) (counted : Prop) [Decidable counted] (e : External)
    (uid : Int) : IsReported (w.reported counted e uid) := by
  unfold reported flagIf
  split_ifs <;> decide

/-- The flags follow the tasks of the app that count. -/
theorem reported_congr {counted : Prop} [Decidable counted] {e' : External}
    (h : ∀ type flag, bgtaskExemptionFlagMap type = some flag →
      (type = "continuous_task" → counted) → (e'.HasTask type uid ↔ e.HasTask type uid)) :
    w.reported counted e' uid = w.reported counted e uid := by
  unfold reported
  rw [flagIf_congr CONTINUOUS_TASK
      (and_congr_right fun hc => h "continuous_task" _ rfl fun _ => hc),
    flagIf_congr TRANSIENT_TASK (h "transient_task" _ rfl fun heq => absurd heq (by decide)),
    flagIf_congr WORK_SCHEDULER (h "work_scheduler" _ rfl fun heq => absurd heq (by decide))]

/-- An app that starts a process has the tasks that it had. -/
theorem reported_created {counted : Prop} [Decidable counted] {uid' pid : Int} {name : String} :
    w.reported counted (e.update (.processStateChanged uid' pid name true)) uid =
      w.reported counted e uid :=
  reported_congr fun type _ _ _ => by
    rw [External.HasTask, External.HasTask, External.tasks_created]

/-- An app that the platform reports nothing of has the flag of a system app, or none. -/
theorem reported_eq_of_unrestricted {counted : Prop} [Decidable counted]
    (h : w.reported counted e uid &&& ~~~UNRESTRICTED = 0) :
    w.reported counted e uid = flagIf (w.IsSystem uid) UNRESTRICTED := by
  revert h
  unfold reported flagIf
  split_ifs <;> decide

/-- A task that starts sets its flag, when it counts. -/
theorem reported_start {counted : Prop} [Decidable counted] {e' : External} {type : String}
    {flag : ExemptionFlag} (hflag : bgtaskExemptionFlagMap type = some flag)
    (hcounted : type = "continuous_task" → counted) (hself : e'.HasTask type uid)
    (hother : ∀ type' ≠ type, e'.HasTask type' uid ↔ e.HasTask type' uid) :
    w.reported counted e' uid = w.reported counted e uid ||| flag := by
  unfold bgtaskExemptionFlagMap at hflag
  unfold reported
  split_ifs at hflag with h1 h2 h3 <;> subst type <;> cases hflag
  · rw [flagIf_congr TRANSIENT_TASK (hother _ (by decide)),
      flagIf_congr WORK_SCHEDULER (hother _ (by decide)),
      show flagIf (counted ∧ e'.HasTask "continuous_task" uid) CONTINUOUS_TASK = CONTINUOUS_TASK
        from if_pos ⟨hcounted rfl, hself⟩]
    unfold flagIf
    split_ifs <;> decide
  · rw [flagIf_congr CONTINUOUS_TASK (and_congr_right' (hother _ (by decide))),
      flagIf_congr WORK_SCHEDULER (hother _ (by decide)),
      show flagIf (e'.HasTask "transient_task" uid) TRANSIENT_TASK = TRANSIENT_TASK
        from if_pos hself]
    unfold flagIf
    split_ifs <;> decide
  · rw [flagIf_congr CONTINUOUS_TASK (and_congr_right' (hother _ (by decide))),
      flagIf_congr TRANSIENT_TASK (hother _ (by decide)),
      show flagIf (e'.HasTask "work_scheduler" uid) WORK_SCHEDULER = WORK_SCHEDULER
        from if_pos hself]
    unfold flagIf
    split_ifs <;> decide

/-- A task that stops takes its flag, when no other of its type remains. -/
theorem reported_stop {counted : Prop} [Decidable counted] {e' : External} {type : String}
    {flag : ExemptionFlag} (hflag : bgtaskExemptionFlagMap type = some flag)
    (hother : ∀ type' ≠ type, e'.HasTask type' uid ↔ e.HasTask type' uid)
    (hlast : w.reported counted e' uid &&& flag = 0) :
    w.reported counted e' uid = w.reported counted e uid &&& ~~~flag := by
  unfold bgtaskExemptionFlagMap at hflag
  revert hlast
  unfold reported
  split_ifs at hflag with h1 h2 h3 <;> subst type <;> cases hflag
  · rw [flagIf_congr TRANSIENT_TASK (hother _ (by decide)),
      flagIf_congr WORK_SCHEDULER (hother _ (by decide))]
    unfold flagIf
    split_ifs <;> decide
  · rw [flagIf_congr CONTINUOUS_TASK (and_congr_right' (hother _ (by decide))),
      flagIf_congr WORK_SCHEDULER (hother _ (by decide))]
    unfold flagIf
    split_ifs <;> decide
  · rw [flagIf_congr CONTINUOUS_TASK (and_congr_right' (hother _ (by decide))),
      flagIf_congr TRANSIENT_TASK (hother _ (by decide))]
    unfold flagIf
    split_ifs <;> decide

/-- Two external states differ at most in the tasks of one type that one app has. -/
structure TaskMoved (w : World) (type : String) (uid : Int) (e e' : External) : Prop where
  processes : e'.processes = e.processes
  allowNames : ∀ t, w.allowNames e' t = w.allowNames e t
  others : ∀ type' uid', ¬ (type' = type ∧ uid' = uid) →
    (e'.HasTask type' uid' ↔ e.HasTask type' uid')

section
variable {type : String} {counted : Prop} [Decidable counted] {e' : External}

/-- A report about a task makes such a difference. -/
theorem taskMoved_update (w : World) (e : External) (type bundleName : String) (started : Bool)
    (uid typeId : Int) : w.TaskMoved type uid e
      (e.update (.bgTaskStatusChange type started uid bundleName typeId)) where
  processes := External.processes_task _ _
  allowNames _ := allowNames_task _ _
  others _ _ hne := External.hasTask_other _ _ hne

/-- The same apps run. -/
theorem TaskMoved.runs (h : w.TaskMoved type uid e e') (uid' : Int) :
    e'.Runs uid' ↔ e.Runs uid' := by
  rw [External.Runs, h.processes, External.Runs]

/-- Of another app the platform reports what it did. -/
theorem TaskMoved.reported_of_ne (h : w.TaskMoved type uid e e') {uid' : Int} (hk : uid' ≠ uid) :
    w.reported counted e' uid' = w.reported counted e uid' :=
  reported_congr fun type' _ _ _ => h.others type' uid' fun heq => hk heq.2

/-- A task that does not count changes nothing that is reported. -/
theorem TaskMoved.reported_of_uncounted (h : w.TaskMoved type uid e e')
    (hnot : ∀ flag, bgtaskExemptionFlagMap type = some flag →
      ¬ (type = "continuous_task" → counted)) (uid' : Int) :
    w.reported counted e' uid' = w.reported counted e uid' := by
  refine reported_congr fun type' flag hflag hcounted => h.others type' uid' ?_
  rintro ⟨rfl, -⟩
  exact hnot flag hflag hcounted

/-- The start of a task that counts adds its flag. -/
theorem TaskMoved.reported_start (h : w.TaskMoved type uid e e') {flag : ExemptionFlag}
    (hflag : bgtaskExemptionFlagMap type = some flag)
    (hcounted : type = "continuous_task" → counted) (hself : e'.HasTask type uid) :
    w.reported counted e' uid = w.reported counted e uid ||| flag :=
  World.reported_start hflag hcounted hself fun type' hne =>
    h.others type' uid fun heq => hne heq.1

/-- The stop of the last task of a type takes its flag. -/
theorem TaskMoved.reported_stop (h : w.TaskMoved type uid e e') {flag : ExemptionFlag}
    (hflag : bgtaskExemptionFlagMap type = some flag)
    (hlast : w.reported counted e' uid &&& flag = 0) :
    w.reported counted e' uid = w.reported counted e uid &&& ~~~flag :=
  World.reported_stop hflag (fun type' hne => h.others type' uid fun heq => hne heq.1) hlast

end

/-- The tasks of a type are those that have it. -/
theorem mem_tasksOf {type : String} {task : BgTask} :
    task ∈ tasksOf e type ↔ task ∈ e.tasks ∧ task.type = type := by
  simp [tasksOf]

/-- For the network strategy the answers of the platform come to the flags of its lists. Continuous
tasks count by day, as none of their types is exempt at night. -/
theorem netPlatformFlag_eq : NetLimitedApps.platformFlag (w.queries e) uid =
    w.reported (w.condition = .dayStandby) e uid := by
  unfold NetLimitedApps.platformFlag reported
  congr 1
  · refine flagIf_congr _ ?_
    simp only [queries, application, IsSystem, List.mem_map, List.mem_filter]
    constructor
    · rintro ⟨_, ⟨⟨uid, hmem, rfl⟩, hsystem⟩, rfl⟩
      exact ⟨hmem, hsystem⟩
    · rintro ⟨hmem, hsystem⟩
      exact ⟨_, ⟨⟨uid, hmem, rfl⟩, hsystem⟩, rfl⟩
  congr 1
  · refine flagIf_congr _ ?_
    simp [queries]
  congr 1
  · refine flagIf_congr _ ?_
    simp only [queries, Option.getD_some, List.mem_map, List.mem_filter,
      NetLimitedApps.exemptsContinuousTask, mem_tasksOf, External.HasTask]
    constructor
    · rintro ⟨_, ⟨⟨task, ⟨hmem, htype⟩, rfl⟩, hexempts⟩, rfl⟩
      refine ⟨?_, task, hmem, htype, rfl⟩
      simpa [nightExemptionTaskType] using hexempts
    · rintro ⟨hday, task, hmem, htype, rfl⟩
      exact ⟨_, ⟨⟨task, ⟨hmem, htype⟩, rfl⟩, by simp [hday]⟩, rfl⟩
  congr 1
  · refine flagIf_congr _ ?_
    simp [queries, mem_tasksOf, External.HasTask, and_assoc]
  · refine flagIf_congr _ ?_
    simp [queries, mem_tasksOf, External.HasTask, and_assoc]

/-- The running lock strategy finds an app of a uid when its bundle is installed. -/
theorem firstKey_queries :
    ProxyRecord.firstKey (w.queries e) uid =
      if uid ∈ w.installed then some (mapKey uid (w.bundleOf uid)) else none := by
  unfold ProxyRecord.firstKey
  simp only [queries, Option.getD_some, List.find?_map, Option.map_map]
  split_ifs with hmem
  · cases hfind : w.installed.find? ((fun info => info.uid = uid) ∘ w.application) with
    | none =>
      have hnot := List.find?_eq_none.1 hfind uid hmem
      exact absurd (decide_eq_true rfl) hnot
    | some uid' =>
      have huid : (w.application uid').uid = uid := by simpa using List.find?_some hfind
      have huid : uid' = uid := huid
      subst huid
      rfl
  · rw [List.find?_eq_none.2, Option.map_none]
    intro uid' hmem' heq
    have huid : uid' = uid := of_decide_eq_true heq
    exact hmem (huid ▸ hmem')

/-- For the running lock strategy too the answers come to the flags of the lists, and continuous
tasks count at any hour. -/
theorem lockPlatformFlag_eq (h : uid ∈ w.installed) :
    ProxyRecord.platformFlag (w.queries e) (mapKey uid (w.bundleOf uid)) =
      w.reported True e uid := by
  have hkey : ∀ uid', mapKey uid' (w.bundleOf uid') = mapKey uid (w.bundleOf uid) ↔ uid' = uid :=
    fun uid' => ⟨fun heq => (mapKey_inj heq).1, fun heq => by rw [heq]⟩
  unfold ProxyRecord.platformFlag reported
  congr 1
  · refine flagIf_congr _ ?_
    simp only [queries, Option.getD_some, IsSystem, List.mem_map, List.mem_filter]
    constructor
    · rintro ⟨_, ⟨⟨uid', hmem, rfl⟩, hsystem⟩, heq⟩
      rw [(hkey uid').1 heq] at hsystem
      exact ⟨List.mem_append_left _ h, hsystem⟩
    · rintro ⟨-, hsystem⟩
      exact ⟨_, ⟨⟨uid, h, rfl⟩, hsystem⟩, rfl⟩
  congr 1
  · refine flagIf_congr _ ?_
    simp [queries, hkey]
  congr 1
  · refine flagIf_congr _ ?_
    simp only [queries, Option.getD_some, List.mem_filterMap, List.mem_map, mem_tasksOf,
      External.HasTask, true_and]
    constructor
    · rintro ⟨_, ⟨task, ⟨hmem, htype⟩, rfl⟩, heq⟩
      have heq : ProxyRecord.firstKey (w.queries e) task.uid = _ := heq
      rw [firstKey_queries] at heq
      split_ifs at heq
      exact ⟨task, hmem, htype, (hkey task.uid).1 (Option.some.inj heq)⟩
    · rintro ⟨task, hmem, htype, rfl⟩
      refine ⟨_, ⟨task, ⟨hmem, htype⟩, rfl⟩, ?_⟩
      exact (firstKey_queries (e := e)).trans (if_pos h)
  congr 1
  · refine flagIf_congr _ ?_
    simp [queries, mem_tasksOf, External.HasTask, hkey, and_assoc]
  · refine flagIf_congr _ ?_
    simp [queries, mem_tasksOf, External.HasTask, hkey, and_assoc]

/-! ### The network strategy -/

/-- The bundle is on the list of the configuration, and not allowed. -/
abbrev Restricts (w : World) (e : External) (t : AllowType) (name : String) : Prop :=
  name ∈ w.restricted t ∧ name ∉ w.allowNames e t

/-- The app that the network strategy builds anew. -/
def netApp (scfg : StrategyConfig) (w : World) (e : External) (uid : Int) (name : String) :
    NetLimtedAppInfo where
  name := name
  appExemptionFlag := configuredFlag (name ∈ w.allowNames e .network)
    (w.Restricts e .network name) (name ∈ scfg.conditionalRestrictNetApp)
    (w.reported (w.condition = .dayStandby) e uid)

/-- The restricted names are those of the configuration that are not allowed. -/
theorem mem_restrictSet {t : AllowType} {name : String} :
    name ∈ (w.queries e).restrictSet t ↔ w.Restricts e t name := by
  simp [queries, Restricts]

/-- The app that is built anew, in terms of the names that are allowed and restricted. -/
theorem appOf_queries (scfg : StrategyConfig) (name : String) (flag : ExemptionFlag) :
    NetLimitedApps.appOf scfg (w.queries e) name flag =
      { name := name
        appExemptionFlag := configuredFlag (name ∈ w.allowNames e .network)
          (w.Restricts e .network name) (name ∈ scfg.conditionalRestrictNetApp) flag } := by
  rw [NetLimitedApps.appOf_eq]
  congr 1
  unfold configuredFlag
  simp only [mem_restrictSet, flagIf]
  rfl

/-- The app of the first process of a uid. -/
theorem lookup_netApps (scfg : StrategyConfig) (uid : Int) :
    (w.netApps scfg e).lookup uid =
      (e.processes.find? fun info => info.uid = uid).map fun info =>
        w.netApp scfg e uid info.processName := by
  rw [netApps, NetLimitedApps.lookup_initNetLimitedAppInfo rfl, netPlatformFlag_eq]
  refine congrArg (Option.map · _) (funext fun info => ?_)
  rw [appOf_queries, netApp]

/-! ### The running lock strategy -/

/-- The processes of a uid. -/
def pidsOf (e : External) (uid : Int) : Finset Int :=
  ((e.processes.filter fun info => info.uid = uid).map (·.pid)).toFinset

/-- The processes of a uid are those that the messages have reported. -/
theorem mem_pidsOf {pid : Int} :
    pid ∈ pidsOf e uid ↔ ∃ info ∈ e.processes, info.uid = uid ∧ info.pid = pid := by
  simp [pidsOf, and_assoc]

/-- An app runs while it has a process. -/
theorem pidsOf_eq_empty_iff : pidsOf e uid = ∅ ↔ ¬ e.Runs uid := by
  rw [Finset.eq_empty_iff_forall_notMem]
  constructor
  · rintro h ⟨info, hmem, huid⟩
    exact h info.pid (mem_pidsOf.2 ⟨info, hmem, huid, rfl⟩)
  · intro h pid hpid
    obtain ⟨info, hmem, huid, -⟩ := mem_pidsOf.1 hpid
    exact h ⟨info, hmem, huid⟩

/-- A process that is created is added to its uid's. -/
theorem pidsOf_created {uid' pid : Int} {name : String} :
    pidsOf (e.update (.processStateChanged uid pid name true)) uid' =
      if uid' = uid then insert pid (pidsOf e uid') else pidsOf e uid' := by
  ext pid'
  have hnew : pid' ∈ pidsOf (e.update (.processStateChanged uid pid name true)) uid' ↔
      (uid' = uid ∧ pid' = pid) ∨ pid' ∈ pidsOf e uid' := by
    simp only [mem_pidsOf, External.update]
    split_ifs with hmem
    · obtain ⟨info, hinfo, heq⟩ := List.any_eq_true.1 hmem
      obtain ⟨huid, hpid⟩ : info.uid = uid ∧ info.pid = pid := of_decide_eq_true heq
      refine ⟨.inr, ?_⟩
      rintro (⟨rfl, rfl⟩ | hold)
      · exact ⟨info, hinfo, huid, hpid⟩
      · exact hold
    · simp only [List.mem_cons, exists_eq_or_imp, eq_comm]
  rw [hnew]
  split_ifs with hk
  · rw [Finset.mem_insert, hk]
    simp
  · simp [hk]

/-- A process that dies is taken from its uid's. -/
theorem pidsOf_died {uid' pid : Int} {name : String} :
    pidsOf (e.update (.processStateChanged uid pid name false)) uid' =
      if uid' = uid then (pidsOf e uid').erase pid else pidsOf e uid' := by
  ext pid'
  have hold : pid' ∈ pidsOf (e.update (.processStateChanged uid pid name false)) uid' ↔
      pid' ∈ pidsOf e uid' ∧ ¬ (uid' = uid ∧ pid' = pid) := by
    simp only [mem_pidsOf, External.update, List.mem_filter, decide_not, Bool.not_eq_true',
      decide_eq_false_iff_not]
    constructor
    · rintro ⟨info, ⟨hmem, hnot⟩, rfl, rfl⟩
      exact ⟨⟨info, hmem, rfl, rfl⟩, hnot⟩
    · rintro ⟨⟨info, hmem, rfl, rfl⟩, hnot⟩
      exact ⟨info, ⟨hmem, hnot⟩, rfl, rfl⟩
  rw [hold]
  split_ifs with hk
  · rw [Finset.mem_erase, and_comm]
    simp [hk]
  · simp [hk]

/-- The app that the running lock strategy builds anew. -/
def lockApp (w : World) (e : External) (uid : Int) : ProxiedProcInfo where
  name := w.bundleOf uid
  uid := uid
  pids := pidsOf e uid
  appExemptionFlag := configuredFlag (w.bundleOf uid ∈ w.allowNames e .runningLock)
    (w.Restricts e .runningLock (w.bundleOf uid)) False (w.reported True e uid)

/-- Every call of the platform succeeds, so that the record is built. -/
theorem lockApps_ok (w : World) (e : External) :
    ProxyRecord.initProxiedAppInfo (w.queries e) = some (w.lockApps e) := rfl

/-- The running lock strategy finds the processes of an app by its uid. -/
theorem runningPids_queries (h : uid ∈ w.installed) :
    ProxyRecord.runningPids (w.queries e) (mapKey uid (w.bundleOf uid)) = pidsOf e uid := by
  unfold ProxyRecord.runningPids pidsOf
  refine congrArg (fun l : List RunningProcessInfo => (l.map (·.pid)).toFinset) ?_
  refine List.filter_congr fun info _ => ?_
  rw [firstKey_queries, decide_eq_decide]
  split_ifs with hmem
  · rw [Option.some.injEq]
    exact ⟨fun heq => (mapKey_inj heq).1, fun heq => by rw [heq]⟩
  · refine iff_of_false (by simp) fun heq => hmem (heq ▸ h)

/-- The running lock strategy builds a record of exactly the installed apps that run. -/
theorem lookup_lockApps (uid : Int) :
    (w.lockApps e).proxiedAppInfo.lookup (mapKey uid (w.bundleOf uid)) =
      if uid ∈ w.installed ∧ e.Runs uid then some (w.lockApp e uid) else none := by
  rw [ProxyRecord.lookup_initProxiedAppInfo (lockApps_ok w e)]
  have hfind : ((w.queries e).applicationInfos.getD []).find? (fun info =>
      ProxyRecord.keyOf info = mapKey uid (w.bundleOf uid)) =
        if uid ∈ w.installed then some (w.application uid) else none := by
    simp only [queries, Option.getD_some, List.find?_map]
    split_ifs with hmem
    · cases hfind : w.installed.find? ((fun info =>
          ProxyRecord.keyOf info = mapKey uid (w.bundleOf uid)) ∘ w.application) with
      | none =>
        have hnot := List.find?_eq_none.1 hfind uid hmem
        exact absurd (decide_eq_true rfl) hnot
      | some uid' =>
        have hkey : ProxyRecord.keyOf (w.application uid') = mapKey uid (w.bundleOf uid) := by
          simpa using List.find?_some hfind
        have huid : uid' = uid := (mapKey_inj hkey).1
        subst huid
        rfl
    · rw [List.find?_eq_none.2, Option.map_none]
      intro uid' hmem' heq
      have hkey : ProxyRecord.keyOf (w.application uid') = mapKey uid (w.bundleOf uid) := by
        simpa using heq
      exact hmem ((mapKey_inj hkey).1 ▸ hmem')
  rw [hfind]
  by_cases hmem : uid ∈ w.installed
  · have hruns : (w.application uid).uid ∈ ((w.queries e).runningProcesses.getD []).map (·.uid) ↔
        e.Runs uid := by
      simp [queries, application, External.Runs]
    simp only [hmem, if_true, true_and, Option.filter_some, hruns, decide_eq_true_eq]
    split_ifs with hrun
    · rw [Option.map_some]
      congr 1
      unfold ProxyRecord.appOf lockApp
      rw [show ProxyRecord.keyOf (w.application uid) = mapKey uid (w.bundleOf uid) from rfl,
        runningPids_queries hmem, lockPlatformFlag_eq hmem]
      unfold ProxyRecord.configFlag configuredFlag
      simp only [mem_restrictSet, flagIf, false_and, if_false, BitVec.or_assoc]
      rfl
    · rfl
  · simp only [hmem, if_false, false_and]
    rfl

end World

/-! ## The strategies beside the external state -/

/-- A message is handled when the platform answers what it reports. -/
def NetworkStrategy.report (scfg : StrategyConfig) (w : World) (s : NetworkStrategy × External)
    (message : StandbyMessage) : NetworkStrategy × External :=
  (handleEvent scfg (w.queries (s.2.update message)) message s.1, s.2.update message)

/-- The same for the running lock strategy. -/
def RunningLockStrategy.report (scfg : StrategyConfig) (w : World)
    (s : RunningLockStrategy × External) (message : StandbyMessage) :
    RunningLockStrategy × External :=
  (handleEvent scfg (w.queries (s.2.update message)) message s.1, s.2.update message)

/-- Two installed apps, which the configuration does not know. -/
def sampleWorld : World where
  bundleOf uid := if uid = 10 then "app" else "other"
  installed := [10, 11]
  special := []
  isSystemApp _ := false
  foreground := []
  persistAllowed _ := []
  restricted _ := []
  condition := .dayStandby

/-- One of them runs. -/
def sampleExternal : External where
  processes := [⟨"app", 10, 7⟩]

end DeviceStandby
