import DeviceStandby.State.Wake

/-!
# Evaluations, their monitors and their tasks

The state manager and the constraint manager each keep a flag for a running evaluation, the motion
monitor keeps its sensors, and its tasks wait on the handler under one name. `Evaluating` is the
joint invariant: the flags agree, and sensors and tasks exist for the current monitor of a running
evaluation only. `UninitReadyState` is the one operation that breaks it, when an evaluation is
running: the constraint manager forgets its monitor without stopping it.
-/

namespace DeviceStandby

open Relation

/-! ## The sensors of a monitor -/

/-- Every subscribed or active sensor is one of the monitor's sensor users. -/
structure MotionSensorMonitor.Users (monitor : MotionSensorMonitor) : Prop where
  subscribed : monitor.subscribed ⊆ monitor.sensorUserMap
  active : monitor.active ⊆ monitor.sensorUserMap

/-- No sensor is subscribed or active through the monitor. -/
structure MotionSensorMonitor.Silent (monitor : MotionSensorMonitor) : Prop where
  subscribed : monitor.subscribed = []
  active : monitor.active = []

section
variable {p : Platform} {kind : MonitorKind} {monitor monitor' : MotionSensorMonitor}
  {err : ErrCode}

/-- A monitoring monitor stops all its sensors; another has none to stop. -/
theorem MotionSensorMonitor.stopSensor_silent (h : monitor.Users)
    (hmon : monitor.isMonitoring = true ∨ monitor.Silent) : monitor.stopSensor.Silent := by
  unfold stopSensor
  split_ifs with hm
  · refine ⟨List.filter_eq_nil_iff.2 ?_, List.filter_eq_nil_iff.2 ?_⟩
    · intro sensor hs
      simpa using h.subscribed hs
    · intro sensor hs
      simpa using h.active hs
  · exact hmon.resolve_left hm

/-- A monitor that is stopped is silent. -/
theorem MotionSensorMonitor.stopMonitoringInner_silent (h : monitor.Users)
    (hmon : monitor.isMonitoring = true ∨ monitor.Silent) : monitor.stopMonitoringInner.Silent :=
  ⟨(stopSensor_silent h hmon).subscribed, (stopSensor_silent h hmon).active⟩

/-- A silent monitor has no active sensor. -/
theorem MotionSensorMonitor.Silent.users (h : monitor.Silent) : monitor.Users where
  subscribed := by
    rw [h.subscribed]
    exact List.nil_subset _
  active := by
    rw [h.active]
    exact List.nil_subset _

/-- The loop of `StartSensor` adds sensors of its list only. -/
theorem MotionSensorMonitor.startSensor_users (list : List SensorType)
    (monitor : MotionSensorMonitor) (hlist : list ⊆ monitor.sensorUserMap) (h : monitor.Users)
    (hstart : startSensor p kind list monitor = (err, monitor')) :
    monitor'.Users ∧ monitor'.isMonitoring = monitor.isMonitoring := by
  induction list generalizing monitor with
  | nil =>
    cases hstart
    exact ⟨h, rfl⟩
  | cons sensorTypeId rest ih =>
    have hhead := hlist List.mem_cons_self
    have hrest : rest ⊆ monitor.sensorUserMap := fun _ hs => hlist (List.mem_cons_of_mem _ hs)
    have hsub : sensorTypeId :: monitor.subscribed ⊆ monitor.sensorUserMap :=
      List.cons_subset.2 ⟨hhead, h.subscribed⟩
    have hact : sensorTypeId :: monitor.active ⊆ monitor.sensorUserMap :=
      List.cons_subset.2 ⟨hhead, h.active⟩
    simp only [startSensor] at hstart
    split_ifs at hstart
    · exact ih { monitor with
        subscribed := sensorTypeId :: monitor.subscribed
        active := sensorTypeId :: monitor.active } hrest ⟨hsub, hact⟩ hstart
    · cases hstart
      exact ⟨⟨hsub, h.active⟩, rfl⟩
    · cases hstart
      exact ⟨h, rfl⟩

/-- Starting the sensors either succeeds, or leaves none behind. -/
theorem MotionSensorMonitor.startMonitoringInner_spec (h : monitor.Users)
    (hstart : monitor.startMonitoringInner p kind = (err, monitor')) :
    monitor'.Users ∧ (err = .ok → monitor'.isMonitoring = true) ∧
      (err ≠ .ok → monitor'.Silent) := by
  unfold startMonitoringInner at hstart
  split at hstart
  case h_1 started hs =>
    cases hstart
    obtain ⟨husers, hmon⟩ := startSensor_users _ { monitor with isMonitoring := true }
      (List.Subset.refl _) ⟨h.subscribed, h.active⟩ hs
    exact ⟨husers, fun _ => hmon, fun hne => absurd rfl hne⟩
  case h_2 started hne hs =>
    cases hstart
    obtain ⟨husers, hmon⟩ := startSensor_users _ { monitor with isMonitoring := true }
      (List.Subset.refl _) ⟨h.subscribed, h.active⟩ hs
    have hsilent := stopSensor_silent husers (.inl hmon)
    exact ⟨hsilent.users, nofun, fun _ => hsilent⟩

end

/-! ## The joint invariant -/

/-- A running evaluation waits for the motion monitor `m`. -/
structure Sensed (s : Service) (m : Monitor) : Prop where
  isEvalution : s.isEvalution = true
  isEvaluation : s.constraintManager.isEvaluation = true
  curMonitor : s.constraintManager.curMonitor = some m
  kind : m.kind ≠ .charge

/-- The flags of the two managers agree, and motion tasks and sensors are those of the monitor that
a running evaluation waits for. -/
structure Evaluating (s : Service) : Prop where
  agree : s.isEvalution = s.constraintManager.isEvaluation
  tasks : ∀ task ∈ s.handler.tasks, task.name = .motionDection → ∃ m, Sensed s m
  own : ∀ m, .stopMotionDetection m ∈ s.handler.tasks ∨
    .periodlyStartMotionDetection m ∈ s.handler.tasks → Sensed s m
  sensors : ∀ m, (s.monitors m).Silent ∨ (Sensed s m ∧ (s.monitors m).isMonitoring = true)
  users : ∀ m, (s.monitors m).Users

/-- No sensor is on, and no motion task is pending. -/
structure Quiet (s : Service) : Prop where
  tasks : ∀ task ∈ s.handler.tasks, task.name ≠ .motionDection
  sensors : ∀ m, (s.monitors m).Silent

section
variable {cfg : StandbyConfig} {s₀ : Service} {a : Action} {p : Platform} {s t : Service}
  {monitor : MotionSensorMonitor}

/-- Whether a monitor senses depends on the evaluation and on the constraint manager. -/
theorem Sensed.of_eq {m : Monitor} (h : Sensed s m) (hev : t.isEvalution = s.isEvalution)
    (hcm : t.constraintManager = s.constraintManager) : Sensed t m where
  isEvalution := hev.trans h.isEvalution
  isEvaluation := by
    rw [hcm]
    exact h.isEvaluation
  curMonitor := by
    rw [hcm]
    exact h.curMonitor
  kind := h.kind

/-- A write that leaves alone what is waited for, posts no motion task and at most replaces monitors
by silent ones keeps `Evaluating`. -/
theorem Evaluating.of_le (h : Evaluating s)
    (hagree : t.isEvalution = t.constraintManager.isEvaluation)
    (hsens : ∀ m, Sensed s m → Sensed t m)
    (htasks : ∀ task ∈ t.handler.tasks, task.name = .motionDection → task ∈ s.handler.tasks)
    (hmon : ∀ m, t.monitors m = s.monitors m ∨ (t.monitors m).Silent) : Evaluating t where
  agree := hagree
  tasks task hmem hname := by
    obtain ⟨m, hm⟩ := h.tasks task (htasks task hmem hname) hname
    exact ⟨m, hsens m hm⟩
  own m hmem := hsens m (h.own m (hmem.imp (htasks _ · rfl) (htasks _ · rfl)))
  sensors m := by
    rcases hmon m with hm | hm
    · rw [hm]
      exact (h.sensors m).imp_right fun hs => ⟨hsens m hs.1, hs.2⟩
    · exact .inl hm
  users m := by
    rcases hmon m with hm | hm
    · rw [hm]
      exact h.users m
    · exact hm.users

/-- Writes that do not concern the evaluation leave it in order. -/
theorem Evaluating.of_eq (h : Evaluating s) (hev : t.isEvalution = s.isEvalution)
    (hcm : t.constraintManager = s.constraintManager) (hmon : t.monitors = s.monitors)
    (htasks : ∀ task ∈ t.handler.tasks, task.name = .motionDection → task ∈ s.handler.tasks) :
    Evaluating t :=
  h.of_le (by rw [hev, hcm, h.agree]) (fun _ hm => hm.of_eq hev hcm) htasks
    fun m => .inl (congrFun hmon m)

/-- Replacing a monitor keeps `Evaluating` when its sensors are off, or it is the one that is waited
for. -/
theorem Evaluating.setMonitor {m : Monitor} {monitor : MotionSensorMonitor} (h : Evaluating s)
    (husers : monitor.Users)
    (hsens : monitor.Silent ∨ (Sensed s m ∧ monitor.isMonitoring = true)) :
    Evaluating (s.setMonitor m monitor) where
  agree := h.agree
  tasks task hmem hname := by
    obtain ⟨m', hm⟩ := h.tasks task hmem hname
    exact ⟨m', hm.of_eq rfl rfl⟩
  own m' hmem := (h.own m' hmem).of_eq rfl rfl
  sensors m' := by
    by_cases hm : m' = m
    · subst hm
      simp only [Service.setMonitor, Function.update_self]
      exact hsens.imp_right fun hs => ⟨hs.1.of_eq rfl rfl, hs.2⟩
    · simp only [Service.setMonitor, Function.update_of_ne hm]
      exact (h.sensors m').imp_right fun hs => ⟨hs.1.of_eq rfl rfl, hs.2⟩
  users m' := by
    by_cases hm : m' = m
    · subst hm
      simpa only [Service.setMonitor, Function.update_self] using husers
    · simpa only [Service.setMonitor, Function.update_of_ne hm] using h.users m'

/-- A motion task may be posted for the monitor that is waited for. -/
theorem Evaluating.postTask {m : Monitor} {task : Task} (h : Evaluating s) (hm : Sensed s m)
    (hown : ∀ m', task = .stopMotionDetection m' ∨ task = .periodlyStartMotionDetection m' →
      m' = m) : Evaluating (s.postTask task) where
  agree := h.agree
  tasks _ _ _ := ⟨m, hm.of_eq rfl rfl⟩
  own m' hmem := by
    have hcase : (.stopMotionDetection m' ∈ s.handler.tasks ∨
        .periodlyStartMotionDetection m' ∈ s.handler.tasks) ∨ m' = m := by
      simp only [Service.mem_postTask] at hmem
      rcases hmem with (hs | hs) | (hs | hs)
      · exact .inl (.inl hs)
      · exact .inr (hown m' (.inl hs.symm))
      · exact .inl (.inr hs)
      · exact .inr (hown m' (.inr hs.symm))
    rcases hcase with hs | rfl
    · exact (h.own m' hs).of_eq rfl rfl
    · exact hm.of_eq rfl rfl
  sensors m' := (h.sensors m').imp_right fun hs => ⟨hs.1.of_eq rfl rfl, hs.2⟩
  users := h.users

/-- While no evaluation is running, all is quiet. -/
theorem Evaluating.quiet (h : Evaluating s) (hev : s.isEvalution = false) : Quiet s where
  tasks task hmem hname := by
    obtain ⟨m, hm⟩ := h.tasks task hmem hname
    rw [hm.isEvalution] at hev
    cases hev
  sensors m := by
    rcases h.sensors m with hs | ⟨hm, -⟩
    · exact hs
    · rw [hm.isEvalution] at hev
      cases hev

/-- A quiet state whose flags agree. -/
theorem Evaluating.of_quiet (hagree : s.isEvalution = s.constraintManager.isEvaluation)
    (h : Quiet s) (husers : ∀ m, (s.monitors m).Users) : Evaluating s where
  agree := hagree
  tasks task hmem hname := absurd hname (h.tasks task hmem)
  own _ hmem := by
    rcases hmem with hmem | hmem
    · exact absurd rfl (h.tasks _ hmem)
    · exact absurd rfl (h.tasks _ hmem)
  sensors m := .inl (h.sensors m)
  users := husers

/-- The end of an evaluation makes all quiet: the monitor that was waited for removes the motion
tasks and stops its sensors, and no other has any. -/
theorem Evaluating.finish (h : Evaluating s) (hev : s.isEvalution = true) :
    Evaluating (finishEvalution s) := by
  have heval : s.constraintManager.isEvaluation = true := h.agree.symm.trans hev
  have hnone : (∀ m, ¬ Sensed s m) → Quiet s := fun hno => by
    refine ⟨fun task hmem hname => ?_, fun m => (h.sensors m).resolve_right fun hm => hno m hm.1⟩
    obtain ⟨m, hm⟩ := h.tasks task hmem hname
    exact hno m hm
  simp only [finishEvalution, ConstraintManagerAdapter.stopEvalution, heval, not_true_eq_false,
    if_false]
  cases hcur : s.constraintManager.curMonitor with
  | none =>
    have hq := hnone fun m hm => by
      have := hm.curMonitor
      rw [hcur] at this
      cases this
    exact .of_quiet rfl ⟨hq.tasks, hq.sensors⟩ h.users
  | some m =>
    have hother : ∀ m', m' ≠ m → ¬ Sensed s m' := fun m' hne hm => by
      have := hm.curMonitor
      rw [hcur] at this
      exact hne (Option.some.inj this).symm
    simp only [stopMonitoring]
    cases hkind : m.kind with
    | charge =>
      have hq := hnone fun m' hm => by
        by_cases hm' : m' = m
        · subst hm'
          exact hm.kind hkind
        · exact hother m' hm' hm
      exact .of_quiet rfl ⟨hq.tasks, hq.sensors⟩ h.users
    | motion | repeatedMotion =>
      have hsilent : ∀ m', (Function.update s.monitors m
          (s.monitors m).stopMonitoringInner m').Silent := fun m' => by
        by_cases hm : m' = m
        · subst hm
          rw [Function.update_self]
          exact MotionSensorMonitor.stopMonitoringInner_silent (h.users m')
            ((h.sensors m').symm.imp_left fun hs => hs.2)
        · rw [Function.update_of_ne hm]
          exact (h.sensors m').resolve_right fun hs => hother m' hm hs.1
      refine .of_quiet rfl ⟨fun task hmem => ?_, hsilent⟩ fun m' => (hsilent m').users
      simpa using (List.mem_filter.1 hmem).2

/-- `StopEvalution` of the state manager ends a running evaluation as a result does. -/
theorem stopEvalution_eq :
    stopEvalution s = if s.isEvalution then finishEvalution s else s := by
  unfold stopEvalution finishEvalution ConstraintManagerAdapter.stopEvalution stopMonitoring
  split_ifs
  · dsimp only
    cases s.constraintManager.curMonitor with
    | none => rfl
    | some m =>
      dsimp only
      cases m.kind <;> rfl
  · rfl
  · rfl

/-- The monitors that `InitReadyState` creates have no sensor on. -/
theorem initReadyState_monitors (cfg : StandbyConfig) (p : Platform)
    (hready : s.isServiceReady = false) (m : Monitor) :
    (initReadyState cfg p s).monitors m = s.monitors m ∨
      ((initReadyState cfg p s).monitors m).Silent := by
  have hinit : ∀ (m' : Monitor) (params : ConstraintEvalParam) (u : Service),
      u.monitors m = s.monitors m ∨ (u.monitors m).Silent →
        (Monitor.init p m' params u).monitors m = s.monitors m ∨
          ((Monitor.init p m' params u).monitors m).Silent := fun m' params u hu => by
    simp only [Monitor.init, Service.setMonitor]
    split
    · exact hu
    all_goals
      split_ifs
      · exact hu
      · by_cases hm : m = m'
        · subst hm
          right
          simp only [Function.update_self]
          exact ⟨rfl, rfl⟩
        · simpa only [Function.update_of_ne hm] using hu
  have hstart : (StateManagerAdapter.init cfg p s).monitors m = s.monitors m := by
    rw [StateManagerAdapter.init_eq cfg p hready]
  rw [initReadyState_eq cfg p hready]
  simp only [ConstraintManagerAdapter.init]
  split_ifs
  · exact hinit _ _ _ (hinit _ _ _ (hinit _ _ _ (.inl hstart)))
  · exact hinit _ _ _ (.inl hstart)

/-- Sensors start for the monitor that is waited for: a periodic task of another would have been
removed. -/
theorem Sensing.sensed {m : Monitor} (h₀ : Evaluating s₀) (h : Sensing cfg s₀ a m s) :
    Sensed s m := by
  cases h with
  | begun hev heval hcur hkind => exact ⟨hev, heval, hcur, hkind⟩
  | periodic _ hmem hev hcm => exact (h₀.own m (.inr hmem)).of_eq hev hcm

/-! ### What each kind of effect leaves of an evaluation -/

/-- The end of an evaluation, if one is running. -/
theorem Evaluating.stop (h : Evaluating s) : Evaluating (stopEvalution s) := by
  rw [stopEvalution_eq]
  split_ifs with hev
  · exact h.finish hev
  · exact h

/-- A write that posts one task, which is no motion task. -/
theorem Evaluating.posted (h : Evaluating s) {new : Task} (hev : t.isEvalution = s.isEvalution)
    (hcm : t.constraintManager = s.constraintManager) (hmon : t.monitors = s.monitors)
    (hname : new.name ≠ .motionDection)
    (htasks : ∀ task ∈ t.handler.tasks, task ∈ s.handler.tasks ∨ task = new) : Evaluating t :=
  h.of_eq hev hcm hmon fun task hm hmotion =>
    (htasks task hm).resolve_right fun heq => hname (heq ▸ hmotion)

/-- A transition posts the task of the new state. -/
theorem Evaluating.transit {nextState : StandbyState} (h : Evaluating s) :
    Evaluating (transitToStateInner cfg p nextState s) := by
  refine h.of_eq (by simp) (by simp) (by simp) fun task hm hname => ?_
  rcases mem_transit_tasks hm with hm | hm
  · exact hm.1
  · cases nextState <;> cases hm <;> cases hname

/-- A request that the constraint manager takes finds all quiet. -/
theorem Evaluating.accepted (h : Evaluating s) (hidle : s.constraintManager.isEvaluation = false)
    (curMonitor : Option Monitor) (trace : List Trace) :
    Evaluating { s with
      isEvalution := true
      constraintManager.isEvaluation := true
      constraintManager.curMonitor := curMonitor
      trace } := by
  have hq := h.quiet (h.agree.trans hidle)
  exact .of_quiet rfl ⟨hq.tasks, hq.sensors⟩ h.users

/-- Sensors start for the monitor that is waited for, which posts its two tasks. -/
theorem Evaluating.startSensor (h : Evaluating s) {m : Monitor} (hm : Sensed s m)
    (hok : (s.monitors m).startMonitoringInner p m.kind = (.ok, monitor)) :
    Evaluating (((s.setMonitor m monitor).postTask (.stopMotionDetection m)).postTask
      (.periodlyStartMotionDetection m)) := by
  obtain ⟨husers, hmon, -⟩ := MotionSensorMonitor.startMonitoringInner_spec (h.users m) hok
  have hset := h.setMonitor (m := m) husers (.inr ⟨hm, hmon rfl⟩)
  refine (hset.postTask (hm.of_eq rfl rfl) fun _ hm => ?_).postTask (hm.of_eq rfl rfl)
    fun _ hm => ?_
  · rcases hm with hm | hm <;> cases hm
    rfl
  · rcases hm with hm | hm <;> cases hm
    rfl

/-- A sensor that is active belongs to the monitor that is waited for, which posts a task. -/
theorem Evaluating.sensorEvent (h : Evaluating s) {m : Monitor}
    (hactive : (s.monitors m).active ≠ []) : Evaluating (s.postTask .motionDetected) := by
  have hm := (h.sensors m).resolve_left fun hs => hactive hs.active
  refine h.postTask hm.1 fun _ hm => ?_
  rcases hm with hm | hm <;> cases hm

/-- A monitor that is stopped has no sensor on. -/
theorem Evaluating.stopDetection (h : Evaluating s) (m : Monitor) :
    Evaluating (s.setMonitor m (s.monitors m).stopMonitoringInner) := by
  have hsilent := MotionSensorMonitor.stopMonitoringInner_silent (h.users m)
    ((h.sensors m).symm.imp_left fun hs => hs.2)
  exact h.setMonitor hsilent.users (.inl hsilent)

/-- A delivered callback posts no motion task. -/
theorem Evaluating.callback (h : Evaluating s) {callback : TimerCallback}
    (hne : callback ≠ .screenOffHalfHour) :
    Evaluating (runCallback callback
      { s with timeService.callbacks := s.timeService.callbacks.erase callback }) := by
  obtain ⟨task, hrun, htask⟩ := runCallback_frame (s := { s with
    timeService.callbacks := s.timeService.callbacks.erase callback }) hne
  rw [hrun]
  have hname : task.name ≠ .motionDection := by
    rcases htask with ⟨-, rfl⟩ | ⟨_, -, rfl⟩ <;> rintro ⟨⟩
  exact h.posted rfl rfl rfl hname fun _ hm =>
    (List.mem_append.1 hm).imp_right List.mem_singleton.1

/-- A start of the service leaves a running evaluation as it is. Its new monitors have no sensor
on. -/
theorem Evaluating.init (h : Evaluating s) (hready : s.isServiceReady = false) :
    Evaluating (initReadyState cfg p s) := by
  have hmon := initReadyState_monitors cfg p hready
  obtain ⟨_, _, hf⟩ := initReadyState_frame cfg p hready
  refine h.of_le (by rw [hf]; exact h.agree) (fun m hm => ?_) (fun task hm hname => ?_) hmon
  · rw [hf]
    exact ⟨hm.1, hm.2, hm.3, hm.4⟩
  · rw [hf] at hm
    rcases List.mem_append.1 hm with hm | hm
    · exact hm
    · rw [List.mem_singleton.1 hm] at hname
      cases hname

/-- An effect keeps `Evaluating`, unless `UninitReadyState` drops the monitor of a running
evaluation. -/
theorem Evaluating.effect
    (huninit : ∀ p, a = .uninitReadyState p → s₀.isServiceReady = true → s₀.isEvalution = false)
    (h₀ : Evaluating s₀) (he : Effect cfg s₀ a s t) (h : Evaluating s) : Evaluating t := by
  cases he with
  | @record _ action queue p =>
    obtain ⟨_, _, _, hf⟩ := recordEvent_frame cfg p action { s with handler.queue := queue }
    rw [hf]
    exact h.of_eq rfl rfl rfl fun _ hm _ => hm
  | block p =>
    obtain ⟨_, _, _, hf⟩ := blockCurrentState_frame cfg p s
    rw [hf]
    exact h.of_eq rfl rfl rfl fun _ hm _ => hm
  | stop => exact h.stop
  | finish _ hev =>
    exact (h.finish hev).of_eq rfl rfl rfl fun _ hm _ => hm
  | halfHour c =>
    obtain ⟨_, _, _, hf⟩ := onScreenOffHalfHourInner_frame (c := c) (r := false) (s := s)
    rw [hf]
    exact h.of_eq rfl rfl rfl fun _ hm _ => hm
  | transit => exact h.transit
  | startRejected _ hbusy =>
    have hev : s.isEvalution = true := h.agree.trans hbusy
    exact h.of_eq hev.symm rfl rfl fun _ hm _ => hm
  | startAccepted _ hidle => exact h.accepted hidle _ _
  | startMotion hsens =>
    refine h.postTask (hsens.sensed h₀) fun _ hm => ?_
    rcases hm with hm | hm <;> cases hm
  | startSensor hsens hok => exact h.startSensor (hsens.sensed h₀) hok
  | @startSensorFailed _ m _ _ _ hsens hne herr =>
    obtain ⟨husers, -, hsilent⟩ := MotionSensorMonitor.startMonitoringInner_spec (h.users m) herr
    exact h.setMonitor husers (.inl (hsilent hne))
  | @napPhase _ evalResult =>
    obtain ⟨_, _, _, hf⟩ := NapState.setPhaseTransitTask_frame evalResult s
    exact h.posted (by rw [hf]) (by rw [hf]) (by rw [hf]) (by rintro ⟨⟩)
      fun _ => mem_setPhaseTransitTask_tasks
  | @sleepPhase p _ evalResult =>
    obtain ⟨_, _, _, _, hf⟩ := SleepState.endEvalPhase_frame cfg p evalResult s
    exact h.posted (by rw [hf]) (by rw [hf]) (by rw [hf]) (by rintro ⟨⟩)
      fun _ => mem_endEvalPhase_tasks
  | @rebegin p =>
    obtain ⟨_, _, _, _, _, hf⟩ := SleepState.beginState_frame cfg p (s.log .sleepRebegun)
    exact h.posted (by rw [hf]; rfl) (by rw [hf]; rfl) (by rw [hf]; rfl) (by rintro ⟨⟩)
      fun _ => mem_sleepBegin_tasks
  | takeTask => exact h.of_eq rfl rfl rfl fun _ hm _ => List.mem_of_mem_erase hm
  | stopDetection => exact h.stopDetection _
  | callback _ _ hne => exact h.callback hne
  | fire hfire =>
    obtain ⟨_, rfl⟩ := timerFire_frame hfire
    exact h.of_eq rfl rfl rfl fun _ hm _ => hm
  | sensorEvent hactive => exact h.sensorEvent hactive
  | init hready => exact h.init hready
  | unInitConstraints ha hs hready =>
    subst hs
    have hev := huninit _ ha hready
    have hq := h.quiet hev
    exact .of_quiet hev ⟨hq.tasks, hq.sensors⟩ h.users
  | resetStates =>
    obtain ⟨_, _, htasks⟩ := StateManagerAdapter.resetStates_spec cfg s
    obtain ⟨_, _, hf⟩ := StateManagerAdapter.resetStates_frame cfg s
    exact h.of_eq (by rw [hf]) (by rw [hf]) (by rw [hf]) fun task hm _ => htasks task hm
  | unblock | setRepeated | runningLock | sleepFlag | holdTimers | skip | takeHalfHour | post
  | conditionChanged => exact h.of_eq rfl rfl rfl fun _ hm _ => hm

/-! ## Runs -/

/-- `UninitReadyState` stops a ready service only while no evaluation is running. -/
def UninitIdle (s : Service) (a : Action) : Prop :=
  ∀ p, a = .uninitReadyState p → s.isServiceReady = true → s.isEvalution = false

/-- Every run that never stops the service during an evaluation keeps the evaluation in order. -/
theorem evaluating_reachable {ok : Service → Action → Prop} (hok : ∀ {s a}, ok s a → UninitIdle s a)
    (h : Lts.ReachableUnder (system cfg) ok s) : Evaluating s := by
  have h0 : Evaluating {} :=
    .of_quiet rfl ⟨nofun, fun _ => ⟨rfl, rfl⟩⟩ fun _ => ⟨List.nil_subset _, List.nil_subset _⟩
  exact run_invariant h0 (fun _ ha h₀ _ he _ hi => Evaluating.effect (hok ha) h₀ he hi) h

/-- In every run in which the service is not stopped during an evaluation, the managers' flags
agree, and between evaluations no sensor is on and no motion task is pending. -/
theorem evaluation_agrees_and_quiet (h : Lts.ReachableUnder (system cfg) UninitIdle s) :
    (s.isEvalution = true ↔ s.constraintManager.isEvaluation = true) ∧
      (s.isEvalution = false → Quiet s) := by
  have hi : Evaluating s := evaluating_reachable id h
  exact ⟨by rw [hi.agree], hi.quiet⟩

/-- NAP waits for its motion monitor. -/
def evaluatingRun : List Action := napRun ++ elapsing .nap samplePlatform

/-- SCREEN_ON during the evaluation of NAP leaves all quiet. -/
theorem evaluation_quiet_screenOn : ∃ s, Lts.Reachable (system sampleConfig) s ∧
    s.curState = .working ∧ s.isEvalution = false ∧ Quiet s := by
  obtain ⟨s, hr, hcur, hev⟩ := (system sampleConfig).exists_run
    (evaluatingRun ++ handling .screenOn samplePlatform) (Lts.System.runMeets_of_forall
      UninitIdle (by simp [evaluatingRun, napRun, elapsing, handling, UninitIdle]))
    (fun s => s.curState = .working ∧ s.isEvalution = false) (by decide)
  exact ⟨s, hr.reachable, hcur, hev, (evaluation_agrees_and_quiet hr).2 hev⟩

/-- Not in every run: `UninitReadyState` during the evaluation of NAP leaves the sensor on. -/
theorem evaluation_not_quiet : ¬ ∀ (cfg : StandbyConfig) (s : Service),
    Lts.Reachable (system cfg) s →
      (s.isEvalution = true ↔ s.constraintManager.isEvaluation = true) ∧
        (s.isEvalution = false → Quiet s) := by
  intro h
  obtain ⟨s, hr, hev, hactive⟩ := (system sampleConfig).exists_run
    (evaluatingRun ++ [.uninitReadyState samplePlatform])
    (Lts.System.runMeets_of_forall (fun _ _ => True) fun _ _ _ => trivial)
    (fun s => s.isEvalution = false ∧ (s.monitors ⟨.motion, 1⟩).active ≠ []) (by decide)
  exact hactive (((h sampleConfig s hr).2 hev).sensors ⟨.motion, 1⟩).active

end

end DeviceStandby
