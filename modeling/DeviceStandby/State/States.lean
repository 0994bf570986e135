import DeviceStandby.Lib.Json
import DeviceStandby.State.Service

/-!
# The state objects

How `WorkingState`, `DarkState`, `NapState`, `MaintenanceState` and `SleepState` begin and end, with
the timers and tasks they set, and the one operation of `StateManagerAdapter` that replaces the
current state, `TransitToStateInner`.
-/

namespace DeviceStandby

/-- `TimeConstant::MSEC_PER_SEC`. -/
abbrev msecPerSec : Int := 1000

/-- `HALF_HOUR`, in milliseconds. -/
abbrev halfHour : Int := 1800000

/-- The error codes that the state manager tells apart. -/
inductive ErrCode where
  | ok | stateTransitionFailed | stateBlocked | startSensorFailed
  deriving DecidableEq, Repr

/-- `DarkState::nextState_`, set in its constructor. -/
def StandbyConfig.darkNextState (cfg : StandbyConfig) : StandbyState :=
  if cfg.napSwitch then .nap else if cfg.sleepSwitch then .sleep else .dark

variable (cfg : StandbyConfig) (p : Platform)

/-! ## Timers -/

/-- `BaseState::StartStateTransitionTimer`. -/
def startStateTransitionTimer (state : StandbyState) (triggerTime : Int) (s : Service) : Service :=
  { s with
    timeService.enterStandbyTimer :=
      if p.startTimer state then
        Function.update s.timeService.enterStandbyTimer state (some (p.wallTimeMs + triggerTime))
      else s.timeService.enterStandbyTimer }

/-- `StopTimer` on a timer whose callback is `callback`: what it leaves of the delivered ones. -/
def remainingCallbacks (callback : TimerCallback) (s : Service) : List TimerCallback :=
  if cfg.stopTimerDrains then s.timeService.callbacks.filter (· ≠ callback)
  else s.timeService.callbacks

/-- `StopTimedTask(TRANSIT_NEXT_STATE_TIMED_TASK)` of a state. A timer outside `timedTaskMap_` was
never started, and stopping it changes nothing. -/
def stopTransitTimedTask (state : StandbyState) (s : Service) : Service :=
  { s with
    timeService.enterStandbyTimer := Function.update s.timeService.enterStandbyTimer state none
    timeService.callbacks := remainingCallbacks cfg (.startTransitNextState state) s }

/-- `StopTimedTask(REPEATED_MOTION_DETECTION_TASK)` of SLEEP. -/
def stopRepeatedTimedTask (s : Service) : Service :=
  { s with
    timeService.repeatedDetectionTimer := none
    timeService.callbacks := remainingCallbacks cfg .startPeriodlyMotionDetection s }

/-- `StateWithMaint::CalculateMaintTimeOut`: the milliseconds until the next maintenance window, and
the new `maintIntervalIndex_`. -/
def calculateMaintTimeOut (maintInterval : List Int) (maintIntervalIndex : Nat)
    (isFirstInterval : Bool) : Int × Nat :=
  if maintInterval.length = 0 then (0, maintIntervalIndex)
  else
    let index := if isFirstInterval then maintIntervalIndex
      else min (maintIntervalIndex + 1) (maintInterval.length - 1)
    let maintIntervalTimeOut := maintInterval.getD index 0
    match p.conditionAfter maintIntervalTimeOut, p.timeDiffToDayNightSwitch with
    | .nightStandby, some timeDiff =>
      (maintIntervalTimeOut * msecPerSec + (timeDiff + p.randomDelay), index)
    | _, _ => (maintIntervalTimeOut * msecPerSec, index)

/-! ## Notifications -/

/-- `StateManagerAdapter::SendNotification`, but for the report to subscribers. -/
def sendNotification (preState : StandbyState) (needDispatchEvent : Bool) (s : Service) : Service :=
  if needDispatchEvent then s.dispatchEvent (.stateTransit preState s.curState) else s

/-- `StateManagerAdapter::OnScreenOffHalfHourInner`. -/
def onScreenOffHalfHourInner (scrOffHalfHourCtrl repeated : Bool) (s : Service) : Service :=
  if scrOffHalfHourCtrl ∧ ¬ (s.curState = .sleep ∨
      (s.preState = .sleep ∧ s.curState = .maintenance)) then s
  else if ¬ repeated ∧ s.halfHour.scrOffHalfHourCtrl = scrOffHalfHourCtrl then s
  else
    { s with halfHour.scrOffHalfHourCtrl := scrOffHalfHourCtrl }.dispatchEvent
      (.screenOffHalfHour scrOffHalfHourCtrl)

/-- `BaseState::TransitToPhaseInner` of the state object of `state`. -/
def transitToPhaseInner (state : StandbyState) (prePhase curPhase : Nat) (s : Service) : Service :=
  s.dispatchEvent (.phaseTransit state prePhase curPhase)

/-! ## Beginning and ending a state -/

/-- `WorkingState::BeginState`. -/
def WorkingState.beginState (s : Service) : Service := s.postTask .checkScreenStatus

/-- `WorkingState::EndState`. -/
def WorkingState.endState (s : Service) : Service := s.removeTask .transitNextStateCondition

/-- `darkTimeOut_`, an `int32_t` that the product is narrowed to. -/
def DarkState.darkTimeOut (cfg : StandbyConfig) : Int :=
  Json.toInt32 (msecPerSec * cfg.darkTimeOut)

/-- `DarkState::BeginState`. -/
def DarkState.beginState (s : Service) : Service :=
  if cfg.darkNextState ≠ .dark then
    startStateTransitionTimer p .dark (DarkState.darkTimeOut cfg) s
  else s

/-- `DarkState::EndState`. -/
def DarkState.endState (s : Service) : Service :=
  (stopTransitTimedTask cfg .dark s).removeTask .transitNextStateTimed

/-- `NapState::BeginState`. -/
def NapState.beginState (s : Service) : Service :=
  if s.preState = .maintenance then
    let (maintIntervalTimeOut, index) :=
      calculateMaintTimeOut p cfg.napMaintDuration s.napState.maintIntervalIndex false
    let s := { s with
      napState.nextState := .maintenance
      napState.maintIntervalIndex := index }
    if maintIntervalTimeOut ≠ 0 then startStateTransitionTimer p .nap maintIntervalTimeOut s else s
  else
    let s := { s with
      napState.maintIntervalIndex := 0
      napState.curPhase := NapStatePhase.CONNECTION }
    let s :=
      if cfg.sleepSwitch then
        startStateTransitionTimer p .nap (min (msecPerSec * cfg.napTimeOut) p.napTimeOut)
          { s with napState.nextState := .sleep }
      else s
    s.postTask (.transitToNapPhase true)

/-- `NapState::EndState`. -/
def NapState.endState (s : Service) : Service :=
  ((stopTransitTimedTask cfg .nap s).removeTask .transitNextStateTimed).removeTask
    .transitNextPhaseInstant

/-- `MaintenanceState::BeginState`. -/
def MaintenanceState.beginState (s : Service) : Service :=
  let nextState := s.preState
  let endMaintTimeOut := if nextState = .nap then cfg.napMaintTimeOut else cfg.sleepMaintTimeOut
  startStateTransitionTimer p .maintenance (endMaintTimeOut * msecPerSec)
    { s with maintState.nextState := nextState }

/-- `MaintenanceState::EndState`. -/
def MaintenanceState.endState (s : Service) : Service :=
  (stopTransitTimedTask cfg .maintenance s).removeTask .transitNextStateTimed

/-- `SleepState::CheckScrenOffHalfHour`. The synchronous task of `OnScreenOffHalfHour` runs at once,
for the caller is on the handler's thread. -/
def SleepState.checkScrenOffHalfHour (s : Service) : Service :=
  if p.wallTimeMs - s.halfHour.screenOffTimeStamp ≥ halfHour then
    onScreenOffHalfHourInner true false s
  else s

/-- `SleepState::BeginState`. -/
def SleepState.beginState (s : Service) : Service :=
  let s := { s with sleepState.isRepeatedDetection := false }
  if s.preState = .maintenance then
    let (maintIntervalTimeOut, index) :=
      calculateMaintTimeOut p cfg.sleepMaintDuration s.sleepState.maintIntervalIndex false
    let s := { s with sleepState.maintIntervalIndex := index }
    if maintIntervalTimeOut ≠ 0 then startStateTransitionTimer p .sleep maintIntervalTimeOut s
    else s
  else
    let (maintIntervalTimeOut, index) := calculateMaintTimeOut p cfg.sleepMaintDuration 0 true
    let s := { s with
      sleepState.maintIntervalIndex := index
      sleepState.curPhase := SleepStatePhase.SYS_RES_DEEP }
    let s := s.postTask (.transitToSleepPhase true)
    SleepState.checkScrenOffHalfHour p
      (startStateTransitionTimer p .sleep maintIntervalTimeOut s)

/-- `SleepState::EndState`. -/
def SleepState.endState (s : Service) : Service :=
  (((stopRepeatedTimedTask cfg (stopTransitTimedTask cfg .sleep s)).removeTask
    .transitNextStateTimed).removeTask .transitNextPhaseInstant).removeTask .repeatedMotionDetection

/-- `BeginState` of the state object of `state`. -/
def beginState (state : StandbyState) (s : Service) : Service :=
  match state with
  | .working => WorkingState.beginState s
  | .dark => DarkState.beginState cfg p s
  | .nap => NapState.beginState cfg p s
  | .maintenance => MaintenanceState.beginState cfg p s
  | .sleep => SleepState.beginState cfg p s

/-- `EndState` of the state object of `state`. -/
def endState (state : StandbyState) (s : Service) : Service :=
  match state with
  | .working => WorkingState.endState s
  | .dark => DarkState.endState cfg s
  | .nap => NapState.endState cfg s
  | .maintenance => MaintenanceState.endState cfg s
  | .sleep => SleepState.endState cfg s

/-- `CheckTransitionValid` of the state object of `curState`. -/
def checkTransitionValid (curState nextState : StandbyState) : Bool :=
  match curState, nextState with
  | .working, .maintenance | .dark, .maintenance | .maintenance, .dark | .sleep, .nap => false
  | _, _ => true

/-- `nextState_` of the state object of `state`. WORKING leaves it at its default. -/
def nextStateOf (state : StandbyState) (s : Service) : StandbyState :=
  match state with
  | .working => .working
  | .dark => cfg.darkNextState
  | .nap => s.napState.nextState
  | .maintenance => s.maintState.nextState
  | .sleep => .maintenance

/-- The first lines of `StateManagerAdapter::TransitToStateInner`: the current state object ends and
is replaced. -/
def replaceState (nextState : StandbyState) (s : Service) : Service :=
  { endState cfg s.curState s with
    preState := s.curState
    curState := nextState
    trace := .transited s.curState nextState :: s.trace }

/-- `StateManagerAdapter::TransitToStateInner`. After `UnInit` the entry of `indexToState_` is a
reset pointer, and using it ends the process. -/
def transitToStateInner (nextState : StandbyState) (s : Service) : Service :=
  let preState := s.curState
  let s := replaceState cfg nextState s
  if s.statesAlive then
    (sendNotification preState true (beginState cfg p nextState s)).releaseStandbyRunningLock
  else { s with crashed := true }

/-! ## What these operations leave alone -/

section
variable {cfg p} {s : Service} {state nextState : StandbyState} {c r : Bool}

/-- The half-hour control changes its own flag and posts a message. -/
theorem onScreenOffHalfHourInner_frame : ∃ halfHour queue trace,
    onScreenOffHalfHourInner c r s =
      { s with halfHour := halfHour, handler.queue := queue, trace := trace } := by
  unfold onScreenOffHalfHourInner
  split_ifs <;> exact ⟨_, _, _, rfl⟩

@[simp] theorem onScreenOffHalfHourInner_toStateManagerAdapter :
    (onScreenOffHalfHourInner c r s).toStateManagerAdapter = s.toStateManagerAdapter := by
  obtain ⟨_, _, _, h⟩ := onScreenOffHalfHourInner_frame (c := c) (r := r) (s := s); rw [h]

@[simp] theorem onScreenOffHalfHourInner_napState :
    (onScreenOffHalfHourInner c r s).napState = s.napState := by
  obtain ⟨_, _, _, h⟩ := onScreenOffHalfHourInner_frame (c := c) (r := r) (s := s); rw [h]

@[simp] theorem onScreenOffHalfHourInner_maintState :
    (onScreenOffHalfHourInner c r s).maintState = s.maintState := by
  obtain ⟨_, _, _, h⟩ := onScreenOffHalfHourInner_frame (c := c) (r := r) (s := s); rw [h]

@[simp] theorem onScreenOffHalfHourInner_sleepState :
    (onScreenOffHalfHourInner c r s).sleepState = s.sleepState := by
  obtain ⟨_, _, _, h⟩ := onScreenOffHalfHourInner_frame (c := c) (r := r) (s := s); rw [h]

@[simp] theorem onScreenOffHalfHourInner_constraintManager :
    (onScreenOffHalfHourInner c r s).constraintManager = s.constraintManager := by
  obtain ⟨_, _, _, h⟩ := onScreenOffHalfHourInner_frame (c := c) (r := r) (s := s); rw [h]

@[simp] theorem onScreenOffHalfHourInner_monitors :
    (onScreenOffHalfHourInner c r s).monitors = s.monitors := by
  obtain ⟨_, _, _, h⟩ := onScreenOffHalfHourInner_frame (c := c) (r := r) (s := s); rw [h]

@[simp] theorem onScreenOffHalfHourInner_timeService :
    (onScreenOffHalfHourInner c r s).timeService = s.timeService := by
  obtain ⟨_, _, _, h⟩ := onScreenOffHalfHourInner_frame (c := c) (r := r) (s := s); rw [h]

@[simp] theorem onScreenOffHalfHourInner_tasks :
    (onScreenOffHalfHourInner c r s).handler.tasks = s.handler.tasks := by
  obtain ⟨_, _, _, h⟩ := onScreenOffHalfHourInner_frame (c := c) (r := r) (s := s); rw [h]

@[simp] theorem onScreenOffHalfHourInner_isServiceReady :
    (onScreenOffHalfHourInner c r s).isServiceReady = s.isServiceReady := by
  obtain ⟨_, _, _, h⟩ := onScreenOffHalfHourInner_frame (c := c) (r := r) (s := s); rw [h]

@[simp] theorem onScreenOffHalfHourInner_crashed :
    (onScreenOffHalfHourInner c r s).crashed = s.crashed := by
  obtain ⟨_, _, _, h⟩ := onScreenOffHalfHourInner_frame (c := c) (r := r) (s := s); rw [h]

/-- Beginning NAP writes its state object, its timer and its task. -/
theorem NapState.beginState_frame (cfg : StandbyConfig) (p : Platform) (s : Service) :
    ∃ napState timeService tasks,
    NapState.beginState cfg p s =
      { s with napState := napState, timeService := timeService, handler.tasks := tasks } := by
  unfold NapState.beginState
  dsimp only
  split_ifs <;> exact ⟨_, _, _, rfl⟩

/-- Beginning SLEEP writes its state object, its timer and its task, and may begin the half-hour
control. -/
theorem SleepState.beginState_frame (cfg : StandbyConfig) (p : Platform) (s : Service) :
    ∃ halfHour sleepState timeService handler trace,
    SleepState.beginState cfg p s =
      { s with
        halfHour := halfHour
        sleepState := sleepState
        timeService := timeService
        handler := handler
        trace := trace } := by
  unfold SleepState.beginState SleepState.checkScrenOffHalfHour
  dsimp only
  split_ifs
  · exact ⟨_, _, _, _, _, rfl⟩
  · exact ⟨_, _, _, _, _, rfl⟩
  · obtain ⟨_, _, _, h⟩ := onScreenOffHalfHourInner_frame
    rw [h]
    exact ⟨_, _, _, _, _, rfl⟩
  · exact ⟨_, _, _, _, _, rfl⟩

/-- Beginning a state writes the state objects, timers and tasks, and may begin the half-hour
control. -/
theorem beginState_frame (cfg : StandbyConfig) (p : Platform) (state : StandbyState) (s : Service) :
    ∃ halfHour napState maintState sleepState timeService handler trace,
    beginState cfg p state s =
      { s with
        halfHour := halfHour
        napState := napState
        maintState := maintState
        sleepState := sleepState
        timeService := timeService
        handler := handler
        trace := trace } := by
  cases state with
  | working => exact ⟨_, _, _, _, _, _, _, rfl⟩
  | dark =>
    simp only [beginState, DarkState.beginState]
    split_ifs <;> exact ⟨_, _, _, _, _, _, _, rfl⟩
  | nap =>
    obtain ⟨_, _, _, h⟩ := NapState.beginState_frame cfg p s
    exact ⟨_, _, _, _, _, _, _, h⟩
  | maintenance => exact ⟨_, _, _, _, _, _, _, rfl⟩
  | sleep =>
    obtain ⟨_, _, _, _, _, h⟩ := SleepState.beginState_frame cfg p s
    exact ⟨_, _, _, _, _, _, _, h⟩

@[simp] theorem beginState_toStateManagerAdapter :
    (beginState cfg p state s).toStateManagerAdapter = s.toStateManagerAdapter := by
  obtain ⟨_, _, _, _, _, _, _, h⟩ := beginState_frame cfg p _ s
  rw [h]

@[simp] theorem beginState_constraintManager :
    (beginState cfg p state s).constraintManager = s.constraintManager := by
  obtain ⟨_, _, _, _, _, _, _, h⟩ := beginState_frame cfg p _ s
  rw [h]

@[simp] theorem beginState_monitors :
    (beginState cfg p state s).monitors = s.monitors := by
  obtain ⟨_, _, _, _, _, _, _, h⟩ := beginState_frame cfg p _ s
  rw [h]

@[simp] theorem beginState_isServiceReady :
    (beginState cfg p state s).isServiceReady = s.isServiceReady := by
  obtain ⟨_, _, _, _, _, _, _, h⟩ := beginState_frame cfg p _ s
  rw [h]

@[simp] theorem beginState_crashed :
    (beginState cfg p state s).crashed = s.crashed := by
  obtain ⟨_, _, _, _, _, _, _, h⟩ := beginState_frame cfg p _ s
  rw [h]

/-- Ending a state stops timers and removes tasks. -/
theorem endState_frame (cfg : StandbyConfig) (state : StandbyState) (s : Service) :
    ∃ timeService tasks,
    endState cfg state s = { s with timeService := timeService, handler.tasks := tasks } := by
  cases state <;>
    simp only [endState, WorkingState.endState, DarkState.endState, NapState.endState,
      MaintenanceState.endState, SleepState.endState, stopTransitTimedTask, stopRepeatedTimedTask,
      Service.removeTask] <;>
    exact ⟨_, _, rfl⟩

/-- Replacing the state object ends the current one. -/
theorem replaceState_frame (cfg : StandbyConfig) (nextState : StandbyState) (s : Service) :
    ∃ timeService tasks,
    replaceState cfg nextState s =
      { s with
        preState := s.curState
        curState := nextState
        timeService := timeService
        handler.tasks := tasks
        trace := .transited s.curState nextState :: s.trace } := by
  obtain ⟨_, _, h⟩ := endState_frame cfg s.curState s
  exact ⟨_, _, by rw [replaceState, h]⟩

/-- A transition between live state objects. -/
theorem transitToStateInner_eq (halive : s.statesAlive = true) :
    transitToStateInner cfg p nextState s =
      (sendNotification s.curState true
        (beginState cfg p nextState (replaceState cfg nextState s))).releaseStandbyRunningLock := by
  obtain ⟨_, _, h⟩ := replaceState_frame cfg nextState s
  unfold transitToStateInner
  dsimp only
  rw [if_pos (by rw [h]; exact halive)]

/-- A transition changes which state is current, and what ending and beginning states change. -/
theorem transitToStateInner_frame (cfg : StandbyConfig) (p : Platform) (nextState : StandbyState)
    (s : Service) :
    ∃ halfHour napState maintState sleepState timeService handler lock trace crashed,
      transitToStateInner cfg p nextState s =
        { s with
          preState := s.curState
          curState := nextState
          halfHour := halfHour
          napState := napState
          maintState := maintState
          sleepState := sleepState
          timeService := timeService
          handler := handler
          runningLockStatus := lock
          trace := trace
          crashed := crashed } := by
  obtain ⟨_, _, hrep⟩ := replaceState_frame cfg nextState s
  obtain ⟨_, _, _, _, _, _, _, hbegin⟩ :=
    beginState_frame cfg p nextState (replaceState cfg nextState s)
  unfold transitToStateInner
  dsimp only
  split_ifs
  · rw [hbegin, hrep]
    exact ⟨_, _, _, _, _, _, _, _, _, rfl⟩
  · rw [hrep]
    exact ⟨_, _, _, _, _, _, _, _, _, rfl⟩

@[simp] theorem transitToStateInner_toStateManagerAdapter :
    (transitToStateInner cfg p nextState s).toStateManagerAdapter =
      { s.toStateManagerAdapter with preState := s.curState, curState := nextState } := by
  obtain ⟨_, _, _, _, _, _, _, _, _, h⟩ := transitToStateInner_frame cfg p _ s
  rw [h]

@[simp] theorem transitToStateInner_constraintManager :
    (transitToStateInner cfg p nextState s).constraintManager = s.constraintManager := by
  obtain ⟨_, _, _, _, _, _, _, _, _, h⟩ := transitToStateInner_frame cfg p _ s
  rw [h]

@[simp] theorem transitToStateInner_monitors :
    (transitToStateInner cfg p nextState s).monitors = s.monitors := by
  obtain ⟨_, _, _, _, _, _, _, _, _, h⟩ := transitToStateInner_frame cfg p _ s
  rw [h]

@[simp] theorem transitToStateInner_isServiceReady :
    (transitToStateInner cfg p nextState s).isServiceReady = s.isServiceReady := by
  obtain ⟨_, _, _, _, _, _, _, _, _, h⟩ := transitToStateInner_frame cfg p _ s
  rw [h]

/-- The task names that a state removes when it ends. -/
def endedTasks : StandbyState → List TaskName
  | .working => [.transitNextStateCondition]
  | .dark | .maintenance => [.transitNextStateTimed]
  | .nap => [.transitNextStateTimed, .transitNextPhaseInstant]
  | .sleep => [.transitNextStateTimed, .transitNextPhaseInstant, .repeatedMotionDetection]

/-- The task that a state posts when it begins. -/
def begunTask : StandbyState → Option Task
  | .working => some .checkScreenStatus
  | .dark | .maintenance => none
  | .nap => some (.transitToNapPhase true)
  | .sleep => some (.transitToSleepPhase true)

/-- The tasks that are left when a state ends. -/
theorem mem_endState_tasks {task : Task} :
    task ∈ (endState cfg state s).handler.tasks ↔
      task ∈ s.handler.tasks ∧ task.name ∉ endedTasks state := by
  cases state <;>
    simp [endState, WorkingState.endState, DarkState.endState, NapState.endState,
      MaintenanceState.endState, SleepState.endState, stopTransitTimedTask, stopRepeatedTimedTask,
      Service.removeTask, endedTasks] <;>
    tauto

/-- The tasks there are when NAP has begun. -/
theorem mem_napBegin_tasks {task : Task}
    (h : task ∈ (NapState.beginState cfg p s).handler.tasks) :
    task ∈ s.handler.tasks ∨ task = .transitToNapPhase true := by
  unfold NapState.beginState at h
  dsimp only at h
  split_ifs at h <;> simp_all [startStateTransitionTimer, Service.postTask]

/-- The tasks there are when SLEEP has begun. -/
theorem mem_sleepBegin_tasks {task : Task}
    (h : task ∈ (SleepState.beginState cfg p s).handler.tasks) :
    task ∈ s.handler.tasks ∨ task = .transitToSleepPhase true := by
  unfold SleepState.beginState SleepState.checkScrenOffHalfHour at h
  dsimp only at h
  split_ifs at h <;> simp_all [startStateTransitionTimer, Service.postTask]

/-- The tasks there are when a state has begun. -/
theorem mem_beginState_tasks {task : Task}
    (h : task ∈ (beginState cfg p state s).handler.tasks) :
    task ∈ s.handler.tasks ∨ begunTask state = some task := by
  cases state with
  | working => simpa [beginState, WorkingState.beginState, Service.postTask, begunTask, eq_comm]
      using h
  | dark =>
    simp only [beginState, DarkState.beginState] at h
    split_ifs at h <;> exact .inl h
  | nap => exact (mem_napBegin_tasks h).imp_right fun h => congrArg some h.symm
  | maintenance => exact .inl h
  | sleep => exact (mem_sleepBegin_tasks h).imp_right fun h => congrArg some h.symm

/-- The tasks there are after a transition: those the old state leaves, and the new state's own. -/
theorem mem_transit_tasks {task : Task}
    (h : task ∈ (transitToStateInner cfg p nextState s).handler.tasks) :
    (task ∈ s.handler.tasks ∧ task.name ∉ endedTasks s.curState) ∨
      begunTask nextState = some task := by
  unfold transitToStateInner at h
  dsimp only at h
  split_ifs at h
  · exact (mem_beginState_tasks h).imp_left mem_endState_tasks.1
  · exact .inl (mem_endState_tasks.1 h)

/-- A transition between live state objects does not end the process. -/
theorem transitToStateInner_crashed (halive : s.statesAlive = true) :
    (transitToStateInner cfg p nextState s).crashed = s.crashed := by
  obtain ⟨_, _, hrep⟩ := replaceState_frame cfg nextState s
  rw [transitToStateInner_eq halive, hrep]
  simp [sendNotification, Service.releaseStandbyRunningLock, Service.dispatchEvent]

/-- A transition ends the process when the state objects were reset. -/
theorem transitToStateInner_alive
    (h : (transitToStateInner cfg p nextState s).crashed = false) :
    s.crashed = false ∧ s.statesAlive = true := by
  obtain ⟨_, _, hrep⟩ := replaceState_frame cfg nextState s
  unfold transitToStateInner at h
  simp only [hrep] at h
  split_ifs at h with halive
  · exact ⟨by simpa [sendNotification, Service.releaseStandbyRunningLock, Service.dispatchEvent]
      using h, halive⟩

/-! ## What these operations do to timers and state objects -/

/-- Starting a transition timer starts no other timer. -/
theorem startStateTransitionTimer_started {callback : TimerCallback} {t : Int}
    (h : (startStateTransitionTimer p state t s).timeService.Started callback) :
    s.timeService.Started callback ∨ callback = .startTransitNextState state := by
  cases callback with
  | startTransitNextState state' =>
    by_cases hs : state' = state
    · exact .inr (hs ▸ rfl)
    · left
      simp only [TimeService.Started, startStateTransitionTimer] at h ⊢
      split_ifs at h
      · rwa [Function.update_of_ne hs] at h
      · exact h
  | startPeriodlyMotionDetection | screenOffHalfHour => exact .inl h

/-- Beginning NAP starts at most its transition timer. -/
theorem NapState.beginState_timeService (cfg : StandbyConfig) (p : Platform) (s : Service) :
    (∀ callback, (NapState.beginState cfg p s).timeService.Started callback →
      s.timeService.Started callback ∨ callback = .startTransitNextState .nap) ∧
    (NapState.beginState cfg p s).timeService.callbacks = s.timeService.callbacks := by
  unfold NapState.beginState
  dsimp only
  split_ifs
  · exact ⟨fun _ h => startStateTransitionTimer_started h, rfl⟩
  · exact ⟨fun _ h => .inl h, rfl⟩
  · exact ⟨fun _ h => startStateTransitionTimer_started h, rfl⟩
  · exact ⟨fun _ h => .inl h, rfl⟩

/-- Beginning SLEEP starts at most its transition timer. -/
theorem SleepState.beginState_timeService (cfg : StandbyConfig) (p : Platform) (s : Service) :
    (∀ callback, (SleepState.beginState cfg p s).timeService.Started callback →
      s.timeService.Started callback ∨ callback = .startTransitNextState .sleep) ∧
    (SleepState.beginState cfg p s).timeService.callbacks = s.timeService.callbacks := by
  unfold SleepState.beginState SleepState.checkScrenOffHalfHour
  dsimp only
  split_ifs
  · exact ⟨fun _ h => startStateTransitionTimer_started h, rfl⟩
  · exact ⟨fun _ h => .inl h, rfl⟩
  · rw [onScreenOffHalfHourInner_timeService]
    exact ⟨fun _ h => startStateTransitionTimer_started h, rfl⟩
  · exact ⟨fun _ h => startStateTransitionTimer_started h, rfl⟩

/-- The states whose begin sets a transition timer: not WORKING, and DARK only with a next state. -/
def StandbyState.HasTimer (cfg : StandbyConfig) : StandbyState → Prop
  | .working => False
  | .dark => cfg.darkNextState ≠ .dark
  | .nap | .maintenance | .sleep => True

/-- WORKING has no timer. -/
theorem StandbyState.HasTimer.ne_working (h : state.HasTimer cfg) : state ≠ .working := by
  rintro rfl
  exact h

/-- Beginning a state starts at most its transition timer. -/
theorem beginState_timeService (cfg : StandbyConfig) (p : Platform) (state : StandbyState)
    (s : Service) :
    (∀ callback, (beginState cfg p state s).timeService.Started callback →
      s.timeService.Started callback ∨
        (callback = .startTransitNextState state ∧ state.HasTimer cfg)) ∧
    (beginState cfg p state s).timeService.callbacks = s.timeService.callbacks := by
  cases state with
  | working => exact ⟨fun _ h => .inl h, rfl⟩
  | dark =>
    simp only [beginState, DarkState.beginState]
    split_ifs with hnext
    · exact ⟨fun _ h => (startStateTransitionTimer_started h).imp_right (⟨·, hnext⟩), rfl⟩
    · exact ⟨fun _ h => .inl h, rfl⟩
  | nap =>
    obtain ⟨h, hc⟩ := NapState.beginState_timeService cfg p s
    exact ⟨fun c hs => (h c hs).imp_right (⟨·, trivial⟩), hc⟩
  | maintenance =>
    exact ⟨fun _ h => (startStateTransitionTimer_started h).imp_right (⟨·, trivial⟩), rfl⟩
  | sleep =>
    obtain ⟨h, hc⟩ := SleepState.beginState_timeService cfg p s
    exact ⟨fun c hs => (h c hs).imp_right (⟨·, trivial⟩), hc⟩

/-- Stopping a transition timer stops no other. -/
theorem stopTransitTimedTask_started {callback : TimerCallback}
    (h : (stopTransitTimedTask cfg state s).timeService.Started callback) :
    s.timeService.Started callback ∧ callback ≠ .startTransitNextState state := by
  cases callback with
  | startTransitNextState state' =>
    simp only [TimeService.Started, stopTransitTimedTask] at h ⊢
    by_cases hs : state' = state
    · subst hs
      simp at h
    · rw [Function.update_of_ne hs] at h
      exact ⟨h, by simpa using hs⟩
  | startPeriodlyMotionDetection | screenOffHalfHour => exact ⟨h, nofun⟩

/-- What `StopTimer` leaves of the delivered callbacks. -/
theorem mem_remainingCallbacks {c callback : TimerCallback}
    (h : callback ∈ remainingCallbacks cfg c s) :
    callback ∈ s.timeService.callbacks ∧ (cfg.stopTimerDrains = true → callback ≠ c) := by
  unfold remainingCallbacks at h
  split_ifs at h with hd
  · simpa [hd] using h
  · exact ⟨h, fun h => absurd h hd⟩

/-- Stopping a transition timer may drop its delivered callbacks, and delivers none. -/
theorem stopTransitTimedTask_callbacks {callback : TimerCallback}
    (h : callback ∈ (stopTransitTimedTask cfg state s).timeService.callbacks) :
    callback ∈ s.timeService.callbacks ∧
      (cfg.stopTimerDrains = true → callback ≠ .startTransitNextState state) :=
  mem_remainingCallbacks h

/-- Stopping the repeated timer stops no other. -/
theorem stopRepeatedTimedTask_started {callback : TimerCallback}
    (h : (stopRepeatedTimedTask cfg s).timeService.Started callback) :
    s.timeService.Started callback ∧ callback ≠ .startPeriodlyMotionDetection := by
  cases callback with
  | startTransitNextState | screenOffHalfHour => exact ⟨h, nofun⟩
  | startPeriodlyMotionDetection => exact absurd rfl h

/-- Stopping the repeated timer may drop its delivered callbacks, and delivers none. -/
theorem stopRepeatedTimedTask_callbacks {callback : TimerCallback}
    (h : callback ∈ (stopRepeatedTimedTask cfg s).timeService.callbacks) :
    callback ∈ s.timeService.callbacks ∧
      (cfg.stopTimerDrains = true → callback ≠ .startPeriodlyMotionDetection) :=
  mem_remainingCallbacks h

/-- The timers that a state's end leaves started are those of other states. -/
theorem endState_started {callback : TimerCallback}
    (h : (endState cfg state s).timeService.Started callback) :
    s.timeService.Started callback ∧ (callback.owner = some state → state = .working) := by
  cases state with
  | working => exact ⟨h, fun _ => rfl⟩
  | dark | nap | maintenance =>
    obtain ⟨hs, hne⟩ := stopTransitTimedTask_started h
    refine ⟨hs, fun ho => ?_⟩
    cases callback <;> simp_all [TimerCallback.owner]
  | sleep =>
    obtain ⟨hs, hne⟩ := stopRepeatedTimedTask_started
      (s := stopTransitTimedTask cfg .sleep s) h
    obtain ⟨hs, hne'⟩ := stopTransitTimedTask_started hs
    refine ⟨hs, fun ho => ?_⟩
    cases callback <;> simp_all [TimerCallback.owner]

/-- The callbacks that a state's end leaves are those of other states when `StopTimer` drains. -/
theorem endState_callbacks {callback : TimerCallback}
    (h : callback ∈ (endState cfg state s).timeService.callbacks) :
    callback ∈ s.timeService.callbacks ∧
      (cfg.stopTimerDrains = true → callback.owner = some state → state = .working) := by
  cases state with
  | working => exact ⟨h, fun _ _ => rfl⟩
  | dark | nap | maintenance =>
    obtain ⟨hs, hne⟩ := stopTransitTimedTask_callbacks h
    refine ⟨hs, fun hd ho => ?_⟩
    cases callback <;> simp_all [TimerCallback.owner]
  | sleep =>
    obtain ⟨hs, hne⟩ := stopRepeatedTimedTask_callbacks
      (s := stopTransitTimedTask cfg .sleep s) h
    obtain ⟨hs, hne'⟩ := stopTransitTimedTask_callbacks hs
    refine ⟨hs, fun hd ho => ?_⟩
    cases callback <;> simp_all [TimerCallback.owner]

/-- The timers started after a transition: those of other states, and the new state's own. -/
theorem transit_started {callback : TimerCallback}
    (h : (transitToStateInner cfg p nextState s).timeService.Started callback) :
    (s.timeService.Started callback ∧ (callback.owner = some s.curState → s.curState = .working)) ∨
      (callback = .startTransitNextState nextState ∧ nextState.HasTimer cfg) := by
  unfold transitToStateInner at h
  dsimp only at h
  split_ifs at h
  · rcases (beginState_timeService cfg p _ _).1 callback h with h | h
    · exact .inl (endState_started h)
    · exact .inr h
  · exact .inl (endState_started h)

/-- The callbacks delivered after a transition. -/
theorem transit_callbacks {callback : TimerCallback}
    (h : callback ∈ (transitToStateInner cfg p nextState s).timeService.callbacks) :
    callback ∈ s.timeService.callbacks ∧
      (cfg.stopTimerDrains = true → callback.owner = some s.curState → s.curState = .working) := by
  unfold transitToStateInner at h
  dsimp only at h
  split_ifs at h
  · have h : callback ∈ (beginState cfg p nextState _).timeService.callbacks := h
    rw [(beginState_timeService cfg p _ _).2] at h
    exact endState_callbacks h
  · exact endState_callbacks h

/-- Beginning NAP resumes after MAINTENANCE, and else starts from its first phase. -/
theorem NapState.beginState_napState (cfg : StandbyConfig) (p : Platform) (s : Service) :
    (NapState.beginState cfg p s).napState.curPhase =
        (if s.preState = .maintenance then s.napState.curPhase else NapStatePhase.CONNECTION) ∧
      (NapState.beginState cfg p s).napState.nextState =
        (if s.preState = .maintenance then .maintenance
        else if cfg.sleepSwitch then .sleep else s.napState.nextState) := by
  unfold NapState.beginState
  dsimp only [startStateTransitionTimer, Service.postTask]
  split_ifs <;> exact ⟨rfl, rfl⟩

/-- Beginning SLEEP resumes after MAINTENANCE, and else starts from its first phase and posts the
task that advances it. -/
theorem SleepState.beginState_sleepState (cfg : StandbyConfig) (p : Platform) (s : Service) :
    (SleepState.beginState cfg p s).sleepState.curPhase =
        (if s.preState = .maintenance then s.sleepState.curPhase
        else SleepStatePhase.SYS_RES_DEEP) ∧
      (s.preState ≠ .maintenance →
        .transitToSleepPhase true ∈ (SleepState.beginState cfg p s).handler.tasks) := by
  unfold SleepState.beginState SleepState.checkScrenOffHalfHour
  dsimp only
  split_ifs with hpre
  · exact ⟨rfl, fun h => absurd hpre h⟩
  · exact ⟨rfl, fun h => absurd hpre h⟩
  · simp [startStateTransitionTimer, Service.postTask]
  · simp [startStateTransitionTimer, Service.postTask]

/-- Beginning a state writes the state object of that state only. -/
theorem beginState_napState (cfg : StandbyConfig) (p : Platform) (s : Service)
    (hne : state ≠ .nap) :
    (beginState cfg p state s).napState = s.napState := by
  cases state with
  | working | maintenance => rfl
  | dark =>
    simp only [beginState, DarkState.beginState]
    split_ifs <;> rfl
  | nap => exact absurd rfl hne
  | sleep =>
    obtain ⟨_, _, _, _, _, h⟩ := SleepState.beginState_frame cfg p s
    rw [beginState, h]

/-- MAINTENANCE returns to the state it was entered from. -/
theorem beginState_maintState (cfg : StandbyConfig) (p : Platform) (state : StandbyState)
    (s : Service) :
    (beginState cfg p state s).maintState =
      if state = .maintenance then { nextState := s.preState } else s.maintState := by
  cases state with
  | working | maintenance => rfl
  | dark =>
    simp only [beginState, DarkState.beginState]
    split_ifs <;> first | rfl | contradiction
  | nap =>
    obtain ⟨_, _, _, h⟩ := NapState.beginState_frame cfg p s
    rw [beginState, h]
    rfl
  | sleep =>
    obtain ⟨_, _, _, _, _, h⟩ := SleepState.beginState_frame cfg p s
    rw [beginState, h]
    rfl

/-- No other state touches the object of SLEEP. -/
theorem beginState_sleepState (cfg : StandbyConfig) (p : Platform) (s : Service)
    (hne : state ≠ .sleep) :
    (beginState cfg p state s).sleepState = s.sleepState := by
  cases state with
  | working | maintenance => rfl
  | dark =>
    simp only [beginState, DarkState.beginState]
    split_ifs <;> rfl
  | nap =>
    obtain ⟨_, _, _, h⟩ := NapState.beginState_frame cfg p s
    rw [beginState, h]
  | sleep => exact absurd rfl hne

/-- What a transition does to the state objects: only that of the new state is written. -/
theorem transit_napState (halive : s.statesAlive = true) :
    (transitToStateInner cfg p nextState s).napState.curPhase =
        (if nextState = .nap ∧ s.curState ≠ .maintenance then NapStatePhase.CONNECTION
        else s.napState.curPhase) ∧
      (transitToStateInner cfg p nextState s).napState.nextState =
        (if nextState ≠ .nap then s.napState.nextState
        else if s.curState = .maintenance then .maintenance
        else if cfg.sleepSwitch then .sleep else s.napState.nextState) := by
  rw [transitToStateInner_eq halive]
  obtain ⟨_, _, hrep⟩ := replaceState_frame cfg nextState s
  by_cases hnap : nextState = .nap
  · subst hnap
    obtain ⟨h1, h2⟩ := NapState.beginState_napState cfg p (replaceState cfg .nap s)
    refine ⟨h1.trans ?_, h2.trans ?_⟩
    · rw [hrep]
      by_cases hm : s.curState = .maintenance <;> simp [hm]
    · rw [hrep]
      simp
  · have h := beginState_napState cfg p (replaceState cfg nextState s) hnap
    refine ⟨(congrArg NapState.curPhase h).trans ?_, (congrArg NapState.nextState h).trans ?_⟩
    · rw [hrep]
      simp [hnap]
    · rw [hrep]
      simp [hnap]

/-- After a transition, MAINTENANCE returns to the state that was left. -/
theorem transit_maintState (halive : s.statesAlive = true) :
    (transitToStateInner cfg p nextState s).maintState =
      if nextState = .maintenance then { nextState := s.curState } else s.maintState := by
  rw [transitToStateInner_eq halive]
  obtain ⟨_, _, hrep⟩ := replaceState_frame cfg nextState s
  refine (beginState_maintState cfg p _ _).trans ?_
  rw [hrep]

/-- A transition to SLEEP begins with its first phase, unless it ends a maintenance window. -/
theorem transit_sleepPhase (halive : s.statesAlive = true) :
    (transitToStateInner cfg p nextState s).sleepState.curPhase =
      if nextState = .sleep ∧ s.curState ≠ .maintenance then SleepStatePhase.SYS_RES_DEEP
      else s.sleepState.curPhase := by
  rw [transitToStateInner_eq halive]
  obtain ⟨_, _, hrep⟩ := replaceState_frame cfg nextState s
  by_cases hsleep : nextState = .sleep
  · subst hsleep
    refine (SleepState.beginState_sleepState cfg p (replaceState cfg .sleep s)).1.trans ?_
    rw [hrep]
    by_cases hm : s.curState = .maintenance <;> simp [hm]
  · have h := beginState_sleepState cfg p (replaceState cfg nextState s) hsleep
    refine (congrArg SleepState.curPhase h).trans ?_
    rw [hrep]
    simp [hsleep]

end

end DeviceStandby
