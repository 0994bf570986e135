import DeviceStandby.State.Queue
import DeviceStandby.State.Timeout

/-!
# A WORKING that is never left

An evaluation that was begun while the service was stopped is still running when it has started
again, and in WORKING nothing ends it but what the monitors of the time before have left behind.
Until then the constraint manager refuses every request for DARK, whatever happens
(`Trapped.step`).
-/

namespace DeviceStandby

open Relation

/-- The step neither stops the service nor handles an event that holds the device asleep. -/
def Unforced (s : Service) (a : Action) : Prop :=
  (∀ p, a ≠ .uninitReadyState p) ∧ ∀ action, Handles s a action → action.isHold = false

/-- An evaluation is running in WORKING. No task that ends it is pending, no sensor is active that
could post one, and no monitor is left that will start its sensors. -/
structure Trapped (s : Service) : Prop where
  ready : s.isServiceReady = true
  working : s.curState = .working
  busy : s.constraintManager.isEvaluation = true
  unanswered : .motionTotalTimeOut ∉ s.handler.tasks ∧ .motionDetected ∉ s.handler.tasks
  unsensed : ∀ m, (s.monitors m).active = []
  unusable : ∀ m, .periodlyStartMotionDetection m ∈ s.handler.tasks →
    (s.monitors m).sensorUserMap = []

section
variable {cfg : StandbyConfig} {s₀ : Service} {a : Action} {p : Platform} {s t : Service}
  {action : CommonEvent}

/-! ## Steps of a ready service -/

/-- With live state objects no effect ends the process. -/
theorem Effect.crashed (he : Effect cfg s₀ a s t) (halive : s.statesAlive = true) :
    t.crashed = s.crashed := by
  cases he with
  | @record _ action queue p =>
    obtain ⟨_, _, _, h⟩ := recordEvent_frame cfg p action { s with handler.queue := queue }
    rw [h]
  | block p =>
    obtain ⟨_, _, _, h⟩ := blockCurrentState_frame cfg p s
    rw [h]
  | stop =>
    obtain ⟨_, _, _, _, h⟩ := stopEvalution_frame (s := s)
    rw [h]
  | finish =>
    obtain ⟨_, _, _, h⟩ := finishEvalution_frame (s := s)
    rw [h]
    rfl
  | halfHour c => exact onScreenOffHalfHourInner_crashed
  | transit p => exact transitToStateInner_crashed halive
  | @napPhase _ evalResult =>
    obtain ⟨_, _, _, h⟩ := NapState.setPhaseTransitTask_frame evalResult s
    rw [h]
  | @sleepPhase p _ evalResult =>
    obtain ⟨_, _, _, _, h⟩ := SleepState.endEvalPhase_frame cfg p evalResult s
    rw [h]
  | @rebegin p =>
    obtain ⟨_, _, _, _, _, h⟩ := SleepState.beginState_frame cfg p (s.log .sleepRebegun)
    rw [h]
    rfl
  | callback _ _ hne =>
    obtain ⟨_, h, -⟩ := runCallback_frame (s := { s with
      timeService.callbacks := s.timeService.callbacks.erase _ }) hne
    rw [h]
    rfl
  | fire h =>
    obtain ⟨_, rfl⟩ := timerFire_frame h
    rfl
  | @init p _ hready =>
    obtain ⟨_, _, h⟩ := initReadyState_frame cfg p hready
    rw [h]
  | resetStates =>
    obtain ⟨_, _, h⟩ := StateManagerAdapter.resetStates_frame cfg s
    rw [h]
  | unblock | startRejected | startAccepted | startMotion | startSensor | startSensorFailed
  | setRepeated | runningLock | sleepFlag | holdTimers | skip | takeTask | stopDetection
  | takeHalfHour | sensorEvent | post | conditionChanged | unInitConstraints => rfl

/-- A process that is running has not ended. -/
theorem alive_reachable (h : Lts.Reachable (system cfg) s) : s.crashed = false :=
  h.invariant (I := fun s => s.crashed = false) rfl
    fun _ _ hs _ => ((system_step_iff cfg).1 hs).2

/-- In a ready service every enabled action but its stop is a step, and leaves it ready. -/
theorem step_of_act (hr : Lts.Reachable (system cfg) s) (hready : s.isServiceReady = true)
    (ha : ∀ p, a ≠ .uninitReadyState p) (h : act cfg s a = some t) :
    (system cfg).step s a = some t ∧ t.isServiceReady = true := by
  have hmap : s.constraintManager.constraintMap ≠ [] := fun hnil => by
    have hcharge := (registered_reachable hr).charge hready
    rw [hnil] at hcharge
    cases hcharge
  have hlive : t.crashed = false ∧ t.statesAlive = true ∧ t.isServiceReady = true ∧
      t.constraintManager.constraintMap ≠ [] := by
    refine Lts.chain_invariant (I := fun u => u.crashed = false ∧ u.statesAlive = true ∧
      u.isServiceReady = true ∧ u.constraintManager.constraintMap ≠ [])
      (chain_act (ownTasks_reachable hr) h) ?_
      ⟨alive_reachable hr, (basic_reachable hr).alive.trans hready, hready, hmap⟩
    rintro u v he ⟨hcrash, halive, hu, hmapu⟩
    -- the monitors are registered until the service is stopped
    have hv : v.isServiceReady = true ∧ v.constraintManager.constraintMap ≠ [] := by
      rcases he.constraints with ⟨hsame, -, -, hv | ⟨-, hnil, -⟩⟩ | ⟨p, hstop, -⟩ | ⟨p, hnot, -⟩
      · exact ⟨hv.trans hu, hsame ▸ hmapu⟩
      · exact absurd hnil hmapu
      · exact absurd hstop (ha p)
      · rw [hu] at hnot
        cases hnot
    refine ⟨(he.crashed halive).trans hcrash, ?_, hv⟩
    rcases he.outcome.ready with ⟨-, hsame⟩ | ⟨-, hlive, -⟩ | ⟨hnot, -⟩
    · exact hsame.trans halive
    · exact hlive
    · rw [hv.1] at hnot
      cases hnot
  exact ⟨(system_step_iff cfg).2 ⟨h, hlive.1⟩, hlive.2.2.1⟩

/-! ## An evaluation in WORKING -/

/-- The writes that move nothing which the trap reads. -/
structure Unmoved (s t : Service) : Prop where
  curState : t.curState = s.curState
  ready : t.isServiceReady = s.isServiceReady
  constraintManager : t.constraintManager = s.constraintManager
  monitors : t.monitors = s.monitors
  tasks : t.handler.tasks = s.handler.tasks

/-- Nothing has been moved. -/
theorem Unmoved.refl (s : Service) : Unmoved s s := ⟨rfl, rfl, rfl, rfl, rfl⟩

/-- Neither part has moved anything. -/
theorem Unmoved.trans {u : Service} (h : Unmoved s t) (h' : Unmoved t u) : Unmoved s u where
  curState := h'.curState.trans h.curState
  ready := h'.ready.trans h.ready
  constraintManager := h'.constraintManager.trans h.constraintManager
  monitors := h'.monitors.trans h.monitors
  tasks := h'.tasks.trans h.tasks

/-- What moves nothing leaves the trap closed. -/
theorem Trapped.of_unmoved (h : Trapped s) (hu : Unmoved s t) : Trapped t where
  ready := hu.ready.trans h.ready
  working := hu.curState.trans h.working
  busy := by
    rw [hu.constraintManager]
    exact h.busy
  unanswered := by
    rw [hu.tasks]
    exact h.unanswered
  unsensed := by
    rw [hu.monitors]
    exact h.unsensed
  unusable := by
    rw [hu.tasks, hu.monitors]
    exact h.unusable

/-- While an evaluation is running in WORKING, a request for DARK is refused. -/
theorem unmoved_transitToDark (hcur : s.curState = .working)
    (hbusy : s.constraintManager.isEvaluation = true) :
    Unmoved s (transitToState cfg p .dark s).2 := by
  by_cases hblocked : s.isBlocked = true
  · rw [transitToDark_blocked hcur hblocked]
    exact .refl s
  · rw [transitToDark_eq hcur (Bool.eq_false_iff.2 hblocked)]
    simp only [startEvalCurrentState, ConstraintManagerAdapter.startEvalution, hbusy, if_true]
    exact ⟨rfl, rfl, rfl, rfl, rfl⟩

/-- In WORKING an event that does not hold the device asleep at most lifts a block. -/
theorem unmoved_respond (hcur : s.curState = .working) (hhold : action.isHold = false) :
    Unmoved s (respond cfg p action s) := by
  unfold respond
  split_ifs with hwake
  · rw [transitToWorking_eq, if_pos hcur]
    exact ⟨rfl, rfl, rfl, rfl, rfl⟩
  · cases action with
    | screenOn | screenUnlocked | charging | usbDeviceAttached | lidOpen => exact absurd rfl hwake
    | screenOff | discharging | usbDeviceDetached | other => exact .refl s
    | enterForceSleep => cases hhold
    | userSleepStateChanged isSleep =>
      simp only [handleAction, handleUserSleepState]
      rcases isSleep with _ | isSleep
      · split_ifs <;> exact .refl s
      · cases isSleep with
        | true => cases hhold
        | false =>
          simp only [Bool.false_eq_true, if_false, hcur, reduceCtorEq]
          split_ifs
          · exact .refl s
          · exact ⟨hcur.symm, rfl, rfl, rfl, rfl⟩

/-- Such an event leaves an evaluation in WORKING where it is. -/
theorem unmoved_handleCommonEvent (hcur : s.curState = .working)
    (hbusy : s.constraintManager.isEvaluation = true) (hhold : action.isHold = false) :
    Unmoved s (handleCommonEvent cfg p action s) := by
  have hrecord : Unmoved s (recordEvent cfg p action s) := by
    obtain ⟨_, _, _, h⟩ := recordEvent_frame cfg p action s
    rw [h]
    exact ⟨rfl, rfl, rfl, rfl, rfl⟩
  have hrespond : Unmoved s (respond cfg p action (recordEvent cfg p action s)) :=
    hrecord.trans (unmoved_respond (hrecord.curState.trans hcur) hhold)
  rw [handleCommonEvent_eq, tryEnterDark_eq]
  split_ifs with hdark
  · refine hrespond.trans (unmoved_transitToDark hdark.1 ?_)
    rw [hrespond.constraintManager]
    exact hbusy
  · exact hrespond

/-- A monitor without sensor users starts none. -/
theorem startMonitoringInner_unusable {kind : MonitorKind} {monitor : MotionSensorMonitor}
    (h : monitor.sensorUserMap = []) :
    monitor.startMonitoringInner p kind = (.ok, { monitor with isMonitoring := true }) := by
  rw [MotionSensorMonitor.startMonitoringInner, h, MotionSensorMonitor.startSensor]

/-- Stopping a monitor whose sensors are silent leaves them so. -/
theorem stopMonitoringInner_unsensed {monitor : MotionSensorMonitor} (h : monitor.active = []) :
    monitor.stopMonitoringInner.active = [] ∧
      monitor.stopMonitoringInner.sensorUserMap = monitor.sensorUserMap := by
  simp only [MotionSensorMonitor.stopMonitoringInner, MotionSensorMonitor.stopSensor]
  split_ifs
  · rw [h]
    exact ⟨rfl, rfl⟩
  · exact ⟨h, rfl⟩

/-- Writing a monitor that keeps its sensors silent, and tasks that end no evaluation. -/
theorem Trapped.setMonitor (h : Trapped s) {m : Monitor} {monitor : MotionSensorMonitor}
    {tasks : List Task} (hactive : monitor.active = [])
    (husers : monitor.sensorUserMap = (s.monitors m).sensorUserMap)
    (hanswer : .motionTotalTimeOut ∉ tasks ∧ .motionDetected ∉ tasks)
    (htasks : ∀ m', .periodlyStartMotionDetection m' ∈ tasks →
      (s.monitors m').sensorUserMap = []) :
    Trapped { s.setMonitor m monitor with handler.tasks := tasks } where
  ready := h.ready
  working := h.working
  busy := h.busy
  unanswered := hanswer
  unsensed m' := by
    by_cases hm : m' = m
    · subst hm
      simpa [Service.setMonitor] using hactive
    · simpa [Service.setMonitor, Function.update_of_ne hm] using h.unsensed m'
  unusable m' hmem := by
    by_cases hm : m' = m
    · subst hm
      simpa [Service.setMonitor, husers] using htasks m' hmem
    · simpa [Service.setMonitor, Function.update_of_ne hm] using htasks m' hmem

/-! ## Steps of a trap -/

/-- In WORKING only the callback of the half hour is delivered: the others are of a state that a
timer is to end. -/
theorem Trapped.timerCallback (h : Trapped s) (hsched : Scheduled s) {callback : TimerCallback}
    (hmem : callback ∈ s.timeService.callbacks) :
    Trapped (runCallback callback
      { s with timeService.callbacks := s.timeService.callbacks.erase callback }) := by
  cases callback with
  | startTransitNextState state =>
    obtain ⟨hstate, hne⟩ := hsched.callbacks _ state rfl hmem
    exact absurd (hstate.trans h.working) hne
  | startPeriodlyMotionDetection =>
    obtain ⟨hstate, -⟩ := hsched.callbacks _ .sleep rfl hmem
    rw [h.working] at hstate
    cases hstate
  | screenOffHalfHour =>
    obtain ⟨_, _, _, hf⟩ := onScreenOffHalfHourInner_frame (c := true) (r := false) (s := { s with
      timeService.callbacks := s.timeService.callbacks.erase .screenOffHalfHour })
    rw [runCallback, hf]
    exact h.of_unmoved ⟨rfl, rfl, rfl, rfl, rfl⟩

/-- A task that is taken from the handler was there before. -/
theorem Trapped.takeTask (h : Trapped s) (task : Task) :
    Trapped { s with handler.tasks := s.handler.tasks.erase task } := by
  have herase : ∀ {task'}, task' ∈ s.handler.tasks.erase task → task' ∈ s.handler.tasks :=
    List.mem_of_mem_erase
  exact ⟨h.ready, h.working, h.busy, h.unanswered.imp (mt herase) (mt herase), h.unsensed,
    fun m hm => h.unusable m (herase hm)⟩

/-- A monitor without sensor users starts none, and posts its two tasks again. -/
theorem Trapped.periodlyStart (h : Trapped s) {m : Monitor}
    (husers : (s.monitors m).sensorUserMap = []) :
    Trapped (((s.setMonitor m { s.monitors m with isMonitoring := true }).postTask
      (.stopMotionDetection m)).postTask (.periodlyStartMotionDetection m)) := by
  have hposted : ∀ {u : Service} {task'},
      task' ∈ ((u.postTask (.stopMotionDetection m)).postTask
        (.periodlyStartMotionDetection m)).handler.tasks → task' ∈ u.handler.tasks ∨
      task' = .stopMotionDetection m ∨ task' = .periodlyStartMotionDetection m := fun hm => by
    simpa only [Service.mem_postTask, or_assoc] using hm
  refine h.setMonitor (h.unsensed m) rfl ⟨fun hm => ?_, fun hm => ?_⟩ fun m' hm => ?_
  · exact (hposted hm).elim h.unanswered.1 (by rintro (h | h) <;> cases h)
  · exact (hposted hm).elim h.unanswered.2 (by rintro (h | h) <;> cases h)
  · rcases hposted hm with hm | hm | hm
    · exact h.unusable m' hm
    · cases hm
    · cases hm
      exact husers

/-- The tasks that may be pending in a trap: the screen is checked, in vain, and monitors stop their
sensors or start none. -/
theorem Trapped.runTask (h : Trapped s) (hsched : Scheduled s) (hown : OwnTasks s) {task : Task}
    (hmem : task ∈ s.handler.tasks) :
    Trapped (runTask cfg p task { s with handler.tasks := s.handler.tasks.erase task }) := by
  have htaken := h.takeTask task
  cases task with
  | transitNextState state =>
    obtain ⟨hstate, hne⟩ := hsched.transit state hmem
    exact absurd (hstate.trans h.working) hne
  | checkScreenStatus =>
    simp only [DeviceStandby.runTask, WorkingState.checkScreenStatus]
    split_ifs
    · exact htaken
    · exact htaken.of_unmoved (unmoved_transitToDark htaken.working htaken.busy)
  | transitToNapPhase acquire =>
    have hnap := hown.napPhase acquire hmem
    rw [h.working] at hnap
    cases hnap
  | transitToSleepPhase acquire =>
    have hsleep := hown.sleepPhase acquire hmem
    rw [h.working] at hsleep
    cases hsleep
  | repeatedDetection =>
    have hsleep := hsched.repeated hmem
    rw [h.working] at hsleep
    cases hsleep
  | motionTotalTimeOut => exact absurd hmem h.unanswered.1
  | motionDetected => exact absurd hmem h.unanswered.2
  | stopMotionDetection m =>
    obtain ⟨hactive, husers⟩ := stopMonitoringInner_unsensed (htaken.unsensed m)
    exact htaken.setMonitor hactive husers htaken.unanswered htaken.unusable
  | periodlyStartMotionDetection m =>
    have husers := h.unusable m hmem
    simp only [DeviceStandby.runTask, periodlyStartMotionDetection,
      startMonitoringInner_unusable husers]
    exact htaken.periodlyStart husers

/-- Of the messages only a common event concerns the state manager. -/
theorem Trapped.handleEvent (h : Trapped s) {message : StandbyMessage}
    {queue : List StandbyMessage}
    (hhold : ∀ action, message = .commonEvent action → action.isHold = false) :
    Trapped (handleEvent cfg p message { s with handler.queue := queue }) := by
  have htaken : Unmoved s { s with handler.queue := queue } := ⟨rfl, rfl, rfl, rfl, rfl⟩
  unfold DeviceStandby.handleEvent
  split
  · exact h.of_unmoved (htaken.trans
      (unmoved_handleCommonEvent h.working h.busy (hhold _ rfl)))
  · exact h.of_unmoved htaken

/-- A trap outlasts every step that does not force the device. -/
theorem Trapped.step (hdrains : cfg.stopTimerDrains = true) (hr : Lts.Reachable (system cfg) s)
    (hok : Unforced s a) (hs : (system cfg).step s a = some t) (h : Trapped s) : Trapped t := by
  have hsched : Scheduled s := scheduled_reachable hdrains hr
  obtain ⟨hact, -⟩ := (system_step_iff cfg).1 hs
  cases a with
  | timerFire callback =>
    obtain ⟨_, rfl⟩ := timerFire_frame hact
    exact h.of_unmoved ⟨rfl, rfl, rfl, rfl, rfl⟩
  | timerCallback callback =>
    obtain ⟨hmem, rfl⟩ := act_timerCallback hact
    exact h.timerCallback hsched hmem
  | sensorEvent m =>
    obtain ⟨hactive, -⟩ := act_sensorEvent hact
    exact absurd (h.unsensed m) hactive
  | runTask task p =>
    obtain ⟨hmem, rfl⟩ := act_runTask hact
    exact h.runTask hsched (ownTasks_reachable hr) hmem
  | post message =>
    obtain ⟨-, rfl⟩ := act_post hact
    exact h.of_unmoved ⟨rfl, rfl, rfl, rfl, rfl⟩
  | dispatch p =>
    obtain ⟨message, queue, hqueue, rfl⟩ := act_dispatch hact
    refine h.handleEvent ?_
    rintro action rfl
    exact hok.2 action ⟨p, rfl, queue, hqueue⟩
  | dayNightSwitch condition =>
    cases hact
    rw [if_neg fun hsleep => by rw [h.working] at hsleep; cases hsleep.2]
    exact h
  | initReadyState p =>
    obtain ⟨-, rfl⟩ := act_initReadyState hact
    rw [initReadyState_of_ready h.ready]
    exact h
  | uninitReadyState p => exact absurd rfl (hok.1 p)

end

end DeviceStandby
