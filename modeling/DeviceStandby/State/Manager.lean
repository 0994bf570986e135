import DeviceStandby.State.States

/-!
# The state manager and the constraint manager

The operations of `StateManagerAdapter` that block, leave and enter standby, and the evaluations of
`ConstraintManagerAdapter` and its monitors that decide whether standby may be entered. The source's
functions call each other in a circle: an evaluation that has no monitor, or whose monitor answers
at once, ends inside `StartEvalCurrentState`, and the end of an evaluation may ask for WORKING.
Nothing lies below WORKING, so that request never enters standby again. `transitToStateWith` takes
the way into standby as an argument, and the circle is cut there.
-/

namespace DeviceStandby

variable (cfg : StandbyConfig) (p : Platform)

/-! ## The sensors of a motion monitor -/

/-- The loop of `MotionSensorMonitor::StartSensor`: it stops at the first sensor that fails. -/
def MotionSensorMonitor.startSensor (kind : MonitorKind) :
    List SensorType → MotionSensorMonitor → ErrCode × MotionSensorMonitor
  | [], monitor => (.ok, monitor)
  | sensorTypeId :: rest, monitor =>
    if ¬ p.subscribeSensor kind sensorTypeId then (.startSensorFailed, monitor)
    else
      let monitor := { monitor with subscribed := sensorTypeId :: monitor.subscribed }
      if ¬ p.activateSensor kind sensorTypeId then (.startSensorFailed, monitor)
      else startSensor kind rest { monitor with active := sensorTypeId :: monitor.active }

/-- `MotionSensorMonitor::StopSensor`: nothing while the monitor is not monitoring, and else every
sensor user is deactivated and unsubscribed. -/
def MotionSensorMonitor.stopSensor (monitor : MotionSensorMonitor) : MotionSensorMonitor :=
  if ¬ monitor.isMonitoring then monitor
  else
    { monitor with
      subscribed := monitor.subscribed.filter (· ∉ monitor.sensorUserMap)
      active := monitor.active.filter (· ∉ monitor.sensorUserMap) }

/-- `MotionSensorMonitor::StopMonitoringInner`. -/
def MotionSensorMonitor.stopMonitoringInner (monitor : MotionSensorMonitor) :
    MotionSensorMonitor :=
  { monitor.stopSensor with isMonitoring := false }

/-- `MotionSensorMonitor::StartMonitoringInner`. -/
def MotionSensorMonitor.startMonitoringInner (kind : MonitorKind) (monitor : MotionSensorMonitor) :
    ErrCode × MotionSensorMonitor :=
  match startSensor p kind monitor.sensorUserMap { monitor with isMonitoring := true } with
  | (.ok, monitor) => (.ok, monitor)
  | (_, monitor) => (.startSensorFailed, monitor.stopSensor)

/-- Replace a monitor object. -/
def Service.setMonitor (m : Monitor) (monitor : MotionSensorMonitor) (s : Service) : Service :=
  { s with monitors := Function.update s.monitors m monitor }

/-! ## Stopping an evaluation -/

/-- `StopMonitoring` of a monitor. The charge monitor does nothing. -/
def stopMonitoring (m : Monitor) (s : Service) : Service :=
  match m.kind with
  | .charge => s
  | .motion | .repeatedMotion =>
    let s := s.removeTask .motionDection
    s.setMonitor m (s.monitors m).stopMonitoringInner

/-- `ConstraintManagerAdapter::StopEvalution`. -/
def ConstraintManagerAdapter.stopEvalution (s : Service) : Service :=
  if ¬ s.constraintManager.isEvaluation then s
  else
    let s := { s with constraintManager.isEvaluation := false }
    match s.constraintManager.curMonitor with
    | none => s
    | some m =>
      let s := stopMonitoring m s
      { s with constraintManager.curMonitor := none }

/-- `StateManagerAdapter::StopEvalution`. -/
def stopEvalution (s : Service) : Service :=
  if s.isEvalution then
    let s := ConstraintManagerAdapter.stopEvalution s
    { s with isEvalution := false }
  else s

/-! ## Blocking a state -/

/-- `NapState::OnStateBlocked`. -/
def NapState.onStateBlocked (s : Service) : Service :=
  let maintIntervalTimeOut :=
    (calculateMaintTimeOut p cfg.napMaintDuration s.napState.maintIntervalIndex true).1
  let s :=
    if maintIntervalTimeOut > 0 then
      startStateTransitionTimer p .nap maintIntervalTimeOut
        { s with napState.nextState := .maintenance }
    else s
  s.releaseStandbyRunningLock

/-- `StateManagerAdapter::BlockCurrentState`. Only NAP overrides `OnStateBlocked`. -/
def blockCurrentState (s : Service) : Service :=
  let s := { s with isBlocked := true }
  match s.curState with
  | .nap => NapState.onStateBlocked cfg p s
  | _ => s

/-- `StateManagerAdapter::UnblockCurrentState`. -/
def unblockCurrentState (s : Service) : Service :=
  { s with isBlocked := false }

/-! ## Changing the state -/

/-- `StateManagerAdapter::ExitStandby`. -/
def exitStandby (nextState : StandbyState) (s : Service) : Service :=
  let s := stopEvalution s
  let s := unblockCurrentState s
  let s := if s.halfHour.scrOffHalfHourCtrl then onScreenOffHalfHourInner false false s else s
  transitToStateInner cfg p nextState s

/-- `StateManagerAdapter::TransitWithMaint`. -/
def transitWithMaint (nextState : StandbyState) (s : Service) : Service :=
  let s :=
    if nextState = .working ∧ s.halfHour.scrOffHalfHourCtrl then
      onScreenOffHalfHourInner false false s
    else s
  transitToStateInner cfg p nextState s

/-- `StateManagerAdapter::TransitToState` over a given `EnterStandby`. -/
def transitToStateWith (enterStandby : StandbyState → Service → ErrCode × Service)
    (nextState : StandbyState) (s : Service) : ErrCode × Service :=
  let curState := s.curState
  if ¬ checkTransitionValid curState nextState then (.stateTransitionFailed, s)
  else if curState = nextState then (.ok, unblockCurrentState s)
  else if nextState = .maintenance ∨ curState = .maintenance then
    (.ok, transitWithMaint cfg p nextState s)
  else if curState.toNat < nextState.toNat then enterStandby nextState s
  else (.ok, exitStandby cfg p nextState s)

/-- `TransitToState(StandbyState::WORKING)`: no state lies below WORKING, so `EnterStandby` is never
called. `transitToState_working` says that this is `transitToState` at WORKING. -/
def transitToWorking (s : Service) : Service :=
  (transitToStateWith cfg p (fun _ s => (.ok, s)) .working s).2

/-! ## The end of an evaluation -/

/-- `WorkingState::EndEvalCurrentState`. -/
def WorkingState.endEvalCurrentState (evalResult : Bool) (s : Service) : Service :=
  if evalResult then transitToStateInner cfg p .dark s else blockCurrentState cfg p s

/-- `DarkState::EndEvalCurrentState`. -/
def DarkState.endEvalCurrentState (evalResult : Bool) (s : Service) : Service :=
  if ¬ evalResult then blockCurrentState cfg p s
  else if cfg.darkNextState ≠ .dark then transitToStateInner cfg p cfg.darkNextState s
  else s

/-- `NapState::HandleEvalResToSleepState`. -/
def NapState.handleEvalResToSleepState (evalResult : Bool) (s : Service) : Service :=
  if ¬ evalResult then transitToWorking cfg p s
  else if s.napState.nextState ≠ .nap then transitToStateInner cfg p .sleep s
  else s

/-- `NapState::SetPhaseTransitTask`. -/
def NapState.setPhaseTransitTask (evalResult : Bool) (s : Service) : Service :=
  let curPhase := s.napState.curPhase
  let s := if evalResult then transitToPhaseInner .nap curPhase (curPhase + 1) s else s
  let s := { s with napState.curPhase := curPhase + 1 }
  if curPhase + 1 < NapStatePhase.END then s.postTask (.transitToNapPhase false)
  else s.releaseStandbyRunningLock

/-- `NapState::EndEvalCurrentState`. -/
def NapState.endEvalCurrentState (evalResult : Bool) (s : Service) : Service :=
  if s.napState.curPhase = NapStatePhase.END then
    NapState.handleEvalResToSleepState cfg p evalResult s
  else NapState.setPhaseTransitTask evalResult s

/-- `REPEATED_MOTION_DETECTION_INTERVAL`, in milliseconds. -/
abbrev repeatedMotionDetectionInterval : Int := 600000

/-- `SleepState::SetPhaseTransitOrRepeatedTask`. The repeated timer exists when motion is
detected. -/
def SleepState.setPhaseTransitOrRepeatedTask (s : Service) : Service :=
  let curPhase := s.sleepState.curPhase + 1
  let s := { s with sleepState.curPhase := curPhase }
  if curPhase < SleepStatePhase.END then s.postTask (.transitToSleepPhase false)
  else
    let s := s.releaseStandbyRunningLock
    if cfg.detectMotion ∧ p.startRepeatedTimer then
      { s with
        timeService.repeatedDetectionTimer :=
          some (p.wallTimeMs + repeatedMotionDetectionInterval) }
    else s

/-- The first branch of `SleepState::EndEvalCurrentState`: a result in a phase of SLEEP. -/
def SleepState.endEvalPhase (evalResult : Bool) (s : Service) : Service :=
  let curPhase := s.sleepState.curPhase
  let s := if evalResult then transitToPhaseInner .sleep curPhase (curPhase + 1) s else s
  SleepState.setPhaseTransitOrRepeatedTask cfg p s

/-- `SleepState::EndEvalCurrentState`. -/
def SleepState.endEvalCurrentState (evalResult : Bool) (s : Service) : Service :=
  if s.sleepState.curPhase < SleepStatePhase.END then SleepState.endEvalPhase cfg p evalResult s
  else
    let s :=
      if ¬ evalResult ∧ s.sleepState.isRepeatedDetection then transitToWorking cfg p s else s
    { s with sleepState.isRepeatedDetection := false }

/-- The request that the current state takes a result to answer. -/
def consumedRequest (s : Service) : Option ConstraintEvalParam :=
  match s.curState with
  | .working => some ⟨.working, 0, .dark, 0, false⟩
  | .dark => some ⟨.dark, 0, cfg.darkNextState, 0, false⟩
  | .nap =>
    if s.napState.curPhase = NapStatePhase.END then
      some ⟨.nap, NapStatePhase.END, .sleep, 0, false⟩
    else some ⟨.nap, s.napState.curPhase, .nap, s.napState.curPhase + 1, false⟩
  | .maintenance => none
  | .sleep =>
    if s.sleepState.curPhase < SleepStatePhase.END then
      some ⟨.sleep, s.sleepState.curPhase, .sleep, s.sleepState.curPhase + 1, false⟩
    else some ⟨.sleep, s.sleepState.curPhase, .sleep, s.sleepState.curPhase, true⟩

/-- `EndEvalCurrentState` of the current state object. -/
def stateEndEval (evalResult : Bool) (s : Service) : Service :=
  match s.curState with
  | .working => WorkingState.endEvalCurrentState cfg p evalResult s
  | .dark => DarkState.endEvalCurrentState cfg p evalResult s
  | .nap => NapState.endEvalCurrentState cfg p evalResult s
  | .maintenance => s
  | .sleep => SleepState.endEvalCurrentState cfg p evalResult s

/-- The first half of `StateManagerAdapter::EndEvalCurrentState`: both managers leave the
evaluation. -/
def finishEvalution (s : Service) : Service :=
  ConstraintManagerAdapter.stopEvalution { s with isEvalution := false }

/-- `StateManagerAdapter::EndEvalCurrentState`. -/
def endEvalCurrentState (evalResult : Bool) (s : Service) : Service :=
  if ¬ s.isEvalution then s
  else
    let s := finishEvalution s
    stateEndEval cfg p evalResult (s.log (.endEval (consumedRequest cfg s)))

/-! ## Starting an evaluation -/

/-- `MotionSensorMonitor::PeriodlyStartMotionDetection`. -/
def periodlyStartMotionDetection (m : Monitor) (s : Service) : Service :=
  match (s.monitors m).startMonitoringInner p m.kind with
  | (.ok, monitor) =>
    ((s.setMonitor m monitor).postTask (.stopMotionDetection m)).postTask
      (.periodlyStartMotionDetection m)
  | (_, monitor) => blockCurrentState cfg p (s.setMonitor m monitor)

/-- `StartMonitoring` of a monitor. -/
def startMonitoring (m : Monitor) (s : Service) : Service :=
  match m.kind with
  | .charge => endEvalCurrentState cfg p (!p.isCharging) s
  | .motion | .repeatedMotion =>
    periodlyStartMotionDetection cfg p m (s.postTask .motionTotalTimeOut)

/-- `ConstraintManagerAdapter::StartEvalution`. -/
def ConstraintManagerAdapter.startEvalution (params : ConstraintEvalParam) (s : Service) :
    Service :=
  if s.constraintManager.isEvaluation then s
  else
    let iter := s.constraintManager.constraintMap.lookup params.getHashValue
    let s := { s with
      constraintManager.isEvaluation := true
      constraintManager.curMonitor := iter
      trace := .acceptEval params :: s.trace }
    match iter with
    | none =>
      if s.constraintManager.hasStateManager then endEvalCurrentState cfg p true s else s
    | some m => startMonitoring cfg p m s

/-- `StateManagerAdapter::StartEvalCurrentState`. -/
def startEvalCurrentState (params : ConstraintEvalParam) (s : Service) : Service :=
  ConstraintManagerAdapter.startEvalution cfg p params
    { s with
      isEvalution := true
      trace := .startEval params :: s.trace }

/-- `StateManagerAdapter::EnterStandby`. -/
def enterStandby (nextState : StandbyState) (s : Service) : ErrCode × Service :=
  if s.isBlocked then (.stateBlocked, s)
  else (.ok, startEvalCurrentState cfg p ⟨s.curState, s.curInnerPhase, nextState, 0, false⟩ s)

/-- `StateManagerAdapter::TransitToState`. -/
def transitToState (nextState : StandbyState) (s : Service) : ErrCode × Service :=
  transitToStateWith cfg p (enterStandby cfg p) nextState s

/-- Nothing lies below WORKING: the way into standby plays no part in a request for WORKING. -/
theorem transitToState_working (s : Service) :
    (transitToState cfg p .working s).2 = transitToWorking cfg p s := by
  have h : ¬ s.curState.toNat < StandbyState.working.toNat := Nat.not_lt_zero _
  simp only [transitToState, transitToWorking, transitToStateWith, h, if_false]

/-- `BaseState::TransitToPhase` of the state object of `state`. -/
def transitToPhase (state : StandbyState) (curPhase nextPhase : Nat) (s : Service) : Service :=
  startEvalCurrentState cfg p ⟨state, curPhase, state, nextPhase, false⟩ s

/-- `StateManagerAdapter::TransitHoldSleepState`. -/
def transitHoldSleepState (s : Service) : Service :=
  let s :=
    if s.curState ≠ .sleep then transitToStateInner cfg p .sleep (unblockCurrentState s) else s
  stopRepeatedTimedTask cfg (stopTransitTimedTask cfg .sleep s)

/-! ## What these operations leave alone -/

section
variable {cfg p} {s : Service}

/-- The service after it accepted a request, before anything answers it. -/
def Service.accepted (params : ConstraintEvalParam) (s : Service) : Service :=
  { s with
    isEvalution := true
    constraintManager.isEvaluation := true
    constraintManager.curMonitor := s.constraintManager.constraintMap.lookup params.getHashValue
    trace := .acceptEval params :: .startEval params :: s.trace }

/-- What becomes of a request: it is refused while another one is evaluated, and else its monitor is
started. Without a monitor it succeeds at once, if there is a state manager to tell. -/
theorem startEvalCurrentState_cases (cfg : StandbyConfig) (p : Platform)
    (params : ConstraintEvalParam) (s : Service) :
    (s.constraintManager.isEvaluation = true ∧
      startEvalCurrentState cfg p params s =
        { s with isEvalution := true, trace := .startEval params :: s.trace }) ∨
    (s.constraintManager.isEvaluation = false ∧
      ∃ m, s.constraintManager.constraintMap.lookup params.getHashValue = some m ∧
        startEvalCurrentState cfg p params s = startMonitoring cfg p m (s.accepted params)) ∨
    (s.constraintManager.isEvaluation = false ∧
      s.constraintManager.constraintMap.lookup params.getHashValue = none ∧
      s.constraintManager.hasStateManager = true ∧
        startEvalCurrentState cfg p params s = endEvalCurrentState cfg p true (s.accepted params)) ∨
    (s.constraintManager.isEvaluation = false ∧
      s.constraintManager.constraintMap.lookup params.getHashValue = none ∧
      s.constraintManager.hasStateManager = false ∧
        startEvalCurrentState cfg p params s = s.accepted params) := by
  have hbranches : startEvalCurrentState cfg p params s =
      if s.constraintManager.isEvaluation then
        { s with isEvalution := true, trace := .startEval params :: s.trace }
      else match s.constraintManager.constraintMap.lookup params.getHashValue with
        | none => if s.constraintManager.hasStateManager then
            endEvalCurrentState cfg p true (s.accepted params) else s.accepted params
        | some m => startMonitoring cfg p m (s.accepted params) := rfl
  rw [hbranches]
  cases hbusy : s.constraintManager.isEvaluation with
  | true => exact .inl ⟨rfl, if_pos rfl⟩
  | false =>
    right
    rw [if_neg Bool.false_ne_true]
    cases hm : s.constraintManager.constraintMap.lookup params.getHashValue with
    | some m => exact .inl ⟨rfl, m, rfl, rfl⟩
    | none =>
      right
      cases hmanager : s.constraintManager.hasStateManager with
      | true => exact .inl ⟨rfl, rfl, rfl, if_pos rfl⟩
      | false => exact .inr ⟨rfl, rfl, rfl, if_neg Bool.false_ne_true⟩

/-- Stopping a monitor stops its sensors and removes the motion tasks. -/
theorem stopMonitoring_frame {m : Monitor} : ∃ monitors tasks,
    stopMonitoring m s = { s with monitors := monitors, handler.tasks := tasks } := by
  unfold stopMonitoring
  cases m.kind <;> exact ⟨_, _, rfl⟩

/-- The constraint manager leaves an evaluation: its monitor's sensors stop and the monitor's tasks
go. -/
theorem ConstraintManagerAdapter.stopEvalution_frame : ∃ curMonitor monitors tasks,
    ConstraintManagerAdapter.stopEvalution s =
      { s with
        constraintManager.isEvaluation := false
        constraintManager.curMonitor := curMonitor
        monitors := monitors
        handler.tasks := tasks } := by
  unfold ConstraintManagerAdapter.stopEvalution
  split_ifs with h
  · dsimp only
    split
    · exact ⟨_, _, _, rfl⟩
    · rename_i m _
      obtain ⟨_, _, hm⟩ := stopMonitoring_frame (m := m)
        (s := { s with constraintManager.isEvaluation := false })
      simp only [hm]
      exact ⟨_, _, _, rfl⟩
  · refine ⟨s.constraintManager.curMonitor, s.monitors, s.handler.tasks, ?_⟩
    simp only [← Bool.eq_false_iff.2 h]

/-- After `EndEvalCurrentState` has called both managers, no evaluation is running. -/
theorem finishEvalution_frame : ∃ curMonitor monitors tasks,
    finishEvalution s =
      { s with
        isEvalution := false
        constraintManager.isEvaluation := false
        constraintManager.curMonitor := curMonitor
        monitors := monitors
        handler.tasks := tasks } := by
  obtain ⟨_, _, _, h⟩ :=
    ConstraintManagerAdapter.stopEvalution_frame (s := { s with isEvalution := false })
  exact ⟨_, _, _, h⟩

/-- After `StopEvalution` no evaluation is running for the state manager. -/
theorem stopEvalution_frame : ∃ isEvaluation curMonitor monitors tasks,
    stopEvalution s =
      { s with
        isEvalution := false
        constraintManager.isEvaluation := isEvaluation
        constraintManager.curMonitor := curMonitor
        monitors := monitors
        handler.tasks := tasks } := by
  unfold stopEvalution
  split_ifs with h
  · obtain ⟨_, _, _, h⟩ := ConstraintManagerAdapter.stopEvalution_frame (s := s)
    rw [h]
    exact ⟨_, _, _, _, rfl⟩
  · refine ⟨s.constraintManager.isEvaluation, s.constraintManager.curMonitor, s.monitors,
      s.handler.tasks, ?_⟩
    simp only [← Bool.eq_false_iff.2 h]

/-- Blocking a state may start the maintenance timer of NAP. -/
theorem blockCurrentState_frame (cfg : StandbyConfig) (p : Platform) (s : Service) :
    ∃ nextState enterStandbyTimer lock,
    blockCurrentState cfg p s =
      { s with
        isBlocked := true
        napState.nextState := nextState
        timeService.enterStandbyTimer := enterStandbyTimer
        runningLockStatus := lock } := by
  simp only [blockCurrentState]
  split
  · simp only [NapState.onStateBlocked, startStateTransitionTimer,
      Service.releaseStandbyRunningLock]
    split_ifs <;> exact ⟨_, _, _, rfl⟩
  · exact ⟨_, _, _, rfl⟩

/-- The next state of a blocked NAP may become MAINTENANCE. -/
theorem blockCurrentState_nextState (cfg : StandbyConfig) (p : Platform) (s : Service) :
    (blockCurrentState cfg p s).napState.nextState = s.napState.nextState ∨
      (blockCurrentState cfg p s).napState.nextState = .maintenance := by
  simp only [blockCurrentState]
  split
  · simp only [NapState.onStateBlocked]
    split_ifs
    · exact .inr rfl
    · exact .inl rfl
  · exact .inl rfl

/-- A result in a phase of NAP advances the phase. -/
theorem NapState.setPhaseTransitTask_frame (evalResult : Bool) (s : Service) : ∃ handler lock trace,
    NapState.setPhaseTransitTask evalResult s =
      { s with
        napState.curPhase := s.napState.curPhase + 1
        handler := handler
        runningLockStatus := lock
        trace := trace } := by
  unfold NapState.setPhaseTransitTask
  dsimp only
  split_ifs <;> exact ⟨_, _, _, rfl⟩

/-- A phase of SLEEP that has ended is followed by the next phase, or by the repeated detection. -/
theorem SleepState.setPhaseTransitOrRepeatedTask_frame (cfg : StandbyConfig) (p : Platform)
    (s : Service) :
    ∃ repeatedDetectionTimer tasks lock,
    SleepState.setPhaseTransitOrRepeatedTask cfg p s =
      { s with
        sleepState.curPhase := s.sleepState.curPhase + 1
        timeService.repeatedDetectionTimer := repeatedDetectionTimer
        handler.tasks := tasks
        runningLockStatus := lock } := by
  unfold SleepState.setPhaseTransitOrRepeatedTask
  dsimp only
  split_ifs <;> exact ⟨_, _, _, rfl⟩

/-- A result in a phase of SLEEP advances the phase. -/
theorem SleepState.endEvalPhase_frame (cfg : StandbyConfig) (p : Platform) (evalResult : Bool)
    (s : Service) :
    ∃ repeatedDetectionTimer handler lock trace,
    SleepState.endEvalPhase cfg p evalResult s =
      { s with
        sleepState.curPhase := s.sleepState.curPhase + 1
        timeService.repeatedDetectionTimer := repeatedDetectionTimer
        handler := handler
        runningLockStatus := lock
        trace := trace } := by
  unfold SleepState.endEvalPhase
  dsimp only
  split_ifs
  · obtain ⟨_, _, _, h⟩ := SleepState.setPhaseTransitOrRepeatedTask_frame cfg p
      (transitToPhaseInner .sleep s.sleepState.curPhase (s.sleepState.curPhase + 1) s)
    rw [h]
    exact ⟨_, _, _, _, rfl⟩
  · obtain ⟨_, _, _, h⟩ := SleepState.setPhaseTransitOrRepeatedTask_frame cfg p s
    rw [h]
    exact ⟨_, _, _, _, rfl⟩

/-- A result in a phase of NAP posts at most the task of the next phase. -/
theorem mem_setPhaseTransitTask_tasks {evalResult : Bool} {task : Task}
    (h : task ∈ (NapState.setPhaseTransitTask evalResult s).handler.tasks) :
    task ∈ s.handler.tasks ∨ task = .transitToNapPhase false := by
  unfold NapState.setPhaseTransitTask at h
  cases evalResult
  all_goals
    simp only [Bool.false_eq_true, if_true, if_false] at h
    split_ifs at h
    · exact Service.mem_postTask.1 h
    · exact .inl h

/-- A result in a phase of SLEEP posts at most the task of the next phase. -/
theorem mem_endEvalPhase_tasks {evalResult : Bool} {task : Task}
    (h : task ∈ (SleepState.endEvalPhase cfg p evalResult s).handler.tasks) :
    task ∈ s.handler.tasks ∨ task = .transitToSleepPhase false := by
  unfold SleepState.endEvalPhase SleepState.setPhaseTransitOrRepeatedTask at h
  cases evalResult
  all_goals
    simp only [Bool.false_eq_true, if_true, if_false] at h
    split_ifs at h
    · exact Service.mem_postTask.1 h
    · exact .inl h
    · exact .inl h

/-- Lift the half-hour control, as every way to WORKING does. -/
def liftHalfHourCtrl (s : Service) : Service :=
  if s.halfHour.scrOffHalfHourCtrl then onScreenOffHalfHourInner false false s else s

/-- Lifting the half-hour control writes the control and posts its message. -/
theorem liftHalfHourCtrl_frame (s : Service) :
    ∃ halfHour queue trace, liftHalfHourCtrl s =
      { s with halfHour := halfHour, handler.queue := queue, trace := trace } := by
  unfold liftHalfHourCtrl
  split_ifs
  · exact onScreenOffHalfHourInner_frame
  · exact ⟨_, _, _, rfl⟩

@[simp] theorem liftHalfHourCtrl_toStateManagerAdapter :
    (liftHalfHourCtrl s).toStateManagerAdapter = s.toStateManagerAdapter := by
  obtain ⟨_, _, _, h⟩ := liftHalfHourCtrl_frame s; rw [h]

@[simp] theorem liftHalfHourCtrl_constraintManager :
    (liftHalfHourCtrl s).constraintManager = s.constraintManager := by
  obtain ⟨_, _, _, h⟩ := liftHalfHourCtrl_frame s; rw [h]

/-- Lifting the half-hour control clears its flag. -/
@[simp] theorem liftHalfHourCtrl_scrOffHalfHourCtrl :
    (liftHalfHourCtrl s).halfHour.scrOffHalfHourCtrl = false := by
  unfold liftHalfHourCtrl
  split_ifs with h
  · simp [onScreenOffHalfHourInner, h, Service.dispatchEvent]
  · exact Bool.eq_false_iff.2 h

/-- The three ways to WORKING: it is current already, MAINTENANCE is left, or another state. Only
the last unblocks and stops the evaluation. -/
theorem transitToWorking_eq :
    transitToWorking cfg p s =
      if s.curState = .working then unblockCurrentState s
      else if s.curState = .maintenance then
        transitToStateInner cfg p .working (liftHalfHourCtrl s)
      else
        transitToStateInner cfg p .working
          (liftHalfHourCtrl (unblockCurrentState (stopEvalution s))) := by
  have hvalid : checkTransitionValid s.curState .working = true := by
    cases s.curState <;> rfl
  have hlt : ¬ s.curState.toNat < StandbyState.working.toNat := Nat.not_lt_zero _
  simp only [transitToWorking, transitToStateWith, hvalid, not_true_eq_false, if_false,
    reduceCtorEq, false_or, hlt, transitWithMaint, exitStandby, liftHalfHourCtrl, true_and]
  split_ifs <;> rfl

/-- A request for WORKING is never refused. -/
theorem transitToWorking_curState : (transitToWorking cfg p s).curState = .working := by
  rw [transitToWorking_eq]
  split_ifs with h
  · exact h
  · simp
  · simp

/-- Waking the device leaves the registered monitors alone. -/
theorem transitToWorking_constraintMap :
    (transitToWorking cfg p s).constraintManager.constraintMap =
      s.constraintManager.constraintMap := by
  obtain ⟨_, _, _, _, hstop⟩ := stopEvalution_frame (s := s)
  rw [transitToWorking_eq]
  split_ifs <;> simp [unblockCurrentState, hstop]

/-- Stopping a monitor posts nothing. -/
theorem mem_stopMonitoring_tasks {m : Monitor} {task : Task}
    (h : task ∈ (stopMonitoring m s).handler.tasks) : task ∈ s.handler.tasks := by
  unfold stopMonitoring at h
  cases hk : m.kind <;> simp_all [Service.removeTask, Service.setMonitor]

/-- Leaving an evaluation posts nothing. -/
theorem ConstraintManagerAdapter.mem_stopEvalution_tasks {task : Task}
    (h : task ∈ (ConstraintManagerAdapter.stopEvalution s).handler.tasks) :
    task ∈ s.handler.tasks := by
  unfold ConstraintManagerAdapter.stopEvalution at h
  split_ifs at h
  · dsimp only at h
    split at h
    · exact h
    · exact mem_stopMonitoring_tasks (s := { s with constraintManager.isEvaluation := false }) h
  · exact h

/-- Leaving an evaluation posts nothing. -/
theorem mem_stopEvalution_tasks {task : Task} (h : task ∈ (stopEvalution s).handler.tasks) :
    task ∈ s.handler.tasks := by
  unfold stopEvalution at h
  split_ifs at h
  · exact ConstraintManagerAdapter.mem_stopEvalution_tasks h
  · exact h

/-- The end of an evaluation posts nothing before the state takes the result. -/
theorem mem_finishEvalution_tasks {task : Task}
    (h : task ∈ (finishEvalution s).handler.tasks) : task ∈ s.handler.tasks :=
  ConstraintManagerAdapter.mem_stopEvalution_tasks (s := { s with isEvalution := false }) h

/-- Removing the motion tasks leaves the others. -/
theorem mem_stopMonitoring_of_ne {m : Monitor} {task : Task} (hname : task.name ≠ .motionDection)
    (h : task ∈ s.handler.tasks) : task ∈ (stopMonitoring m s).handler.tasks := by
  unfold stopMonitoring
  cases m.kind with
  | charge => exact h
  | motion | repeatedMotion => exact List.mem_filter.2 ⟨h, by simpa using hname⟩

/-- `StopEvalution` removes the tasks of the motion detection only. -/
theorem ConstraintManagerAdapter.mem_stopEvalution_of_ne {task : Task}
    (hname : task.name ≠ .motionDection) (h : task ∈ s.handler.tasks) :
    task ∈ (ConstraintManagerAdapter.stopEvalution s).handler.tasks := by
  unfold ConstraintManagerAdapter.stopEvalution
  split_ifs
  · dsimp only
    split
    · exact h
    · exact mem_stopMonitoring_of_ne (s := { s with constraintManager.isEvaluation := false })
        hname h
  · exact h

/-- So does that of the state manager. -/
theorem mem_stopEvalution_of_ne {task : Task} (hname : task.name ≠ .motionDection)
    (h : task ∈ s.handler.tasks) : task ∈ (stopEvalution s).handler.tasks := by
  unfold stopEvalution
  split_ifs
  · exact ConstraintManagerAdapter.mem_stopEvalution_of_ne hname h
  · exact h

/-- So does the end of an evaluation. -/
theorem mem_finishEvalution_of_ne {task : Task} (hname : task.name ≠ .motionDection)
    (h : task ∈ s.handler.tasks) : task ∈ (finishEvalution s).handler.tasks :=
  ConstraintManagerAdapter.mem_stopEvalution_of_ne (s := { s with isEvalution := false }) hname h

end

end DeviceStandby
