import DeviceStandby.Lib.Transition
import DeviceStandby.State.Manager

/-!
# One step of the service

What the handler runs as one task: a message of the queue, a pending task, the callback of a timer,
`InitReadyState` and `UninitReadyState`. `step` is partial: an action that is not enabled in a
state (a task that is not pending, a sensor that is not active) has no successor.
-/

namespace DeviceStandby

variable (cfg : StandbyConfig) (p : Platform)

/-! ## Common events -/

/-- `StateManagerAdapter::HandleScrOffHalfHour`. -/
def handleScrOffHalfHour (action : CommonEvent) (s : Service) : Service :=
  if ¬ cfg.halfHourTimer then s
  else
    match action with
    | .screenOff =>
      let s := { s with
        isScreenOn := false
        halfHour.screenOffTimeStamp := p.wallTimeMs }
      if p.startHalfHourTimer then
        { s with timeService.scrOffHalfHourTimer := some (p.wallTimeMs + halfHour) }
      else s
    | .screenOn =>
      { s with
        isScreenOn := true
        timeService.scrOffHalfHourTimer := none
        timeService.callbacks := remainingCallbacks cfg .screenOffHalfHour s }
    | _ => s

/-- `StateManagerAdapter::HandleOpenCloseLid`. -/
def handleOpenCloseLid (action : CommonEvent) (s : Service) : Service :=
  if action = .lidOpen then (transitToState cfg p .working s).2 else s

/-- `StateManagerAdapter::HandleScreenStatus`. -/
def handleScreenStatus (action : CommonEvent) (s : Service) : Service :=
  match action with
  | .screenOn => { s with isScreenOn := true }
  | .screenOff => { s with isScreenOn := false }
  | _ => s

/-- `StateManagerAdapter::CheckEnterDarkState`: every action passes when the screen is off. -/
def checkEnterDarkState (action : CommonEvent) (s : Service) : Bool :=
  if s.isScreenOn then false
  else if action = .screenOff ∨ action = .discharging ∨ action = .usbDeviceDetached then true
  else true

/-- `StateManagerAdapter::HandleUserSleepState`. -/
def handleUserSleepState (isSleep : Option Bool) (s : Service) : Service :=
  if s.isScreenOn then s
  else
    match isSleep with
    | none => s
    | some isSleepState =>
      let s := { s with isSleepState := isSleepState }
      if isSleepState then transitHoldSleepState cfg p s
      else if s.curState = .sleep then SleepState.beginState cfg p (s.log .sleepRebegun)
      else s

/-- The middle of `StateManagerAdapter::HandleCommonEvent`: the actions that wake the device or hold
it asleep. -/
def handleAction (action : CommonEvent) (s : Service) : Service :=
  match action with
  | .screenOn | .screenUnlocked | .charging | .usbDeviceAttached =>
    (transitToState cfg p .working s).2
  | .userSleepStateChanged isSleep => handleUserSleepState cfg p isSleep s
  | .enterForceSleep => transitHoldSleepState cfg p s
  | _ => s

/-- The end of `StateManagerAdapter::HandleCommonEvent`. -/
def tryEnterDark (action : CommonEvent) (s : Service) : Service :=
  if s.curState ≠ .working then s
  else if checkEnterDarkState action s then (transitToState cfg p .dark s).2
  else s

/-- `StateManagerAdapter::HandleCommonEvent`. -/
def handleCommonEvent (action : CommonEvent) (s : Service) : Service :=
  let s := handleScrOffHalfHour cfg p action (s.log (.handled action))
  let s := handleOpenCloseLid cfg p action s
  let s := handleScreenStatus action s
  let s := handleAction cfg p action s
  tryEnterDark cfg p action s

/-- `StateManagerAdapter::HandleEvent`. A condition change is only reported to subscribers. -/
def handleEvent (message : StandbyMessage) (s : Service) : Service :=
  match message with
  | .commonEvent action => handleCommonEvent cfg p action s
  | _ => s

/-! ## Tasks and callbacks -/

/-- The task of `BaseState::StartTransitNextState`. -/
def runTransitNextState (state : StandbyState) (s : Service) : Service :=
  let s := s.acquireStandbyRunningLock
  let s := stopEvalution s
  match transitToState cfg p (nextStateOf cfg state s) s with
  | (.ok, s) => s
  | (_, s) => (blockCurrentState cfg p s).releaseStandbyRunningLock

/-- `WorkingState::checkScreenStatus`. -/
def WorkingState.checkScreenStatus (s : Service) : Service :=
  if ¬ s.isScreenOn then (transitToState cfg p .dark s).2 else s

/-- The task of `SleepState::StartPeriodlyMotionDetection`. -/
def runRepeatedDetection (s : Service) : Service :=
  let curPhase := s.sleepState.curPhase
  startEvalCurrentState cfg p ⟨.sleep, curPhase, .sleep, curPhase, true⟩
    { s with sleepState.isRepeatedDetection := true }

/-- What a pending task does. -/
def runTask (task : Task) (s : Service) : Service :=
  match task with
  | .transitNextState state => runTransitNextState cfg p state s
  | .checkScreenStatus => WorkingState.checkScreenStatus cfg p s
  | .transitToNapPhase acquire =>
    let s := if acquire then s.acquireStandbyRunningLock else s
    transitToPhase cfg p .nap s.napState.curPhase (s.napState.curPhase + 1) s
  | .transitToSleepPhase acquire =>
    let s := if acquire then s.acquireStandbyRunningLock else s
    transitToPhase cfg p .sleep s.sleepState.curPhase (s.sleepState.curPhase + 1) s
  | .repeatedDetection => runRepeatedDetection cfg p s
  | .motionTotalTimeOut => endEvalCurrentState cfg p true s
  | .motionDetected => endEvalCurrentState cfg p false s
  | .stopMotionDetection m => s.setMonitor m (s.monitors m).stopMonitoringInner
  | .periodlyStartMotionDetection m => periodlyStartMotionDetection cfg p m s

/-- What a delivered timer callback does. -/
def runCallback (callback : TimerCallback) (s : Service) : Service :=
  match callback with
  | .startTransitNextState state => s.postTask (.transitNextState state)
  | .startPeriodlyMotionDetection => s.postTask .repeatedDetection
  | .screenOffHalfHour => onScreenOffHalfHourInner true false s

/-- A started timer fires: the time service delivers its callback. Only the repeated detection
timer repeats. -/
def timerFire (callback : TimerCallback) (s : Service) : Option Service :=
  let deliver (timeService : TimeService) : Service :=
    { s with timeService := { timeService with callbacks := callback :: timeService.callbacks } }
  match callback with
  | .startTransitNextState state =>
    (s.timeService.enterStandbyTimer state).map fun _ =>
      deliver { s.timeService with
        enterStandbyTimer := Function.update s.timeService.enterStandbyTimer state none }
  | .startPeriodlyMotionDetection =>
    s.timeService.repeatedDetectionTimer.map fun _ => deliver s.timeService
  | .screenOffHalfHour =>
    s.timeService.scrOffHalfHourTimer.map fun _ =>
      deliver { s.timeService with scrOffHalfHourTimer := none }

/-! ## Start and stop of the service -/

/-- `Init` of a monitor: it registers itself, a motion monitor only when it has a usable sensor. -/
def Monitor.init (m : Monitor) (params : ConstraintEvalParam) (s : Service) : Service :=
  let register (s : Service) : Service :=
    { s with constraintManager.constraintMap :=
        s.constraintManager.constraintMap ++ [(params.getHashValue, m)] }
  match m.kind with
  | .charge => register s
  | .motion | .repeatedMotion =>
    if p.usableSensors m.kind = [] then s
    else register (s.setMonitor m { sensorUserMap := p.usableSensors m.kind })

/-- The parameter that `ChargeStateMonitor::Init` registers under. -/
abbrev chargeParams : ConstraintEvalParam := ⟨.working, 0, .dark, 0, false⟩

/-- `motionDetectParams` of `ConstraintManagerAdapter::Init`. -/
abbrev motionDetectParams : ConstraintEvalParam :=
  ⟨.nap, NapStatePhase.END, .sleep, SleepStatePhase.SYS_RES_DEEP, false⟩

/-- `repeatedMotionParams` of `ConstraintManagerAdapter::Init`. -/
abbrev repeatedMotionParams : ConstraintEvalParam :=
  ⟨.sleep, SleepStatePhase.END, .sleep, SleepStatePhase.END, true⟩

/-- `ConstraintManagerAdapter::Init`. -/
def ConstraintManagerAdapter.init (s : Service) : Service :=
  let generation := s.constraintManager.generation + 1
  let s := { s with
    constraintManager.hasStateManager := true
    constraintManager.generation := generation }
  let s := Monitor.init p ⟨.charge, generation⟩ chargeParams s
  if cfg.detectMotion then
    Monitor.init p ⟨.repeatedMotion, generation⟩ repeatedMotionParams
      (Monitor.init p ⟨.motion, generation⟩ motionDetectParams s)
  else s

/-- `ConstraintManagerAdapter::UnInit`: the monitors are dropped, not stopped. -/
def ConstraintManagerAdapter.unInit (s : Service) : Service :=
  { s with
    constraintManager.constraintMap := []
    constraintManager.hasStateManager := false
    constraintManager.curMonitor := none
    constraintManager.isEvaluation := false }

/-- `StateManagerAdapter::Init` with new state objects. Their timers are created; none is
started. -/
def StateManagerAdapter.init (s : Service) : Service :=
  let s := { s with
    runningLockStatus := false
    napState := {}
    maintState := {}
    sleepState := {}
    statesAlive := true
    curState := .working
    preState := .working
    isScreenOn := p.isScreenOn }
  sendNotification .working true (beginState cfg p .working s)

/-- `BaseState::UnInit` and `SleepState::UnInit` of every state object: the tasks and the timers of
`timedTaskMap_` go, and the task names are shared by the states. -/
def destroyAllTimedTask (s : Service) : Service :=
  let s := (s.removeTask .transitNextStateTimed).removeTask .repeatedMotionDetection
  let s := stopRepeatedTimedTask cfg s
  let s := stopTransitTimedTask cfg .dark s
  let s := stopTransitTimedTask cfg .nap s
  let s := stopTransitTimedTask cfg .maintenance s
  stopTransitTimedTask cfg .sleep s

/-- `StopTimer` of `StateManagerAdapter::UnInit` for the half-hour timer. -/
def stopHalfHourTimer (s : Service) : Service :=
  if cfg.halfHourTimer then
    { s with
      timeService.scrOffHalfHourTimer := none
      timeService.callbacks := remainingCallbacks cfg .screenOffHalfHour s }
  else s

/-- `StateManagerAdapter::UnInit` after the transition to WORKING. -/
def StateManagerAdapter.resetStates (s : Service) : Service :=
  let s := endState cfg s.curState s
  let s := destroyAllTimedTask cfg s
  let s := { s with
    statesAlive := false
    sleepState.isRepeatedDetection := false }
  (stopHalfHourTimer cfg s).releaseStandbyRunningLock

/-- `StateManagerAdapter::UnInit`. -/
def StateManagerAdapter.unInit (s : Service) : Service :=
  StateManagerAdapter.resetStates cfg (transitToState cfg p .working s).2

/-- The task of `StandbyServiceImpl::InitReadyState`, all of whose plugins start. -/
def initReadyState (s : Service) : Service :=
  if s.isServiceReady then s
  else
    let s := StateManagerAdapter.init cfg p s
    let s := ConstraintManagerAdapter.init cfg p s
    { s with isServiceReady := true }

/-- The task of `StandbyServiceImpl::UninitReadyState`. -/
def uninitReadyState (s : Service) : Service :=
  if ¬ s.isServiceReady then s
  else
    let s := ConstraintManagerAdapter.unInit s
    { StateManagerAdapter.unInit cfg p s with isServiceReady := false }

/-! ## What these operations leave alone -/

section
variable {cfg p} {s t : Service}

/-- A timer that fires changes the time service only. -/
theorem timerFire_frame {callback : TimerCallback} (h : timerFire callback s = some t) :
    ∃ timeService, t = { s with timeService := timeService } := by
  unfold timerFire at h
  cases callback <;> simp only [Option.map_eq_some_iff] at h <;> obtain ⟨_, -, rfl⟩ := h <;>
    exact ⟨_, rfl⟩

/-- A timer fires when it was started, and delivers its callback. -/
theorem timerFire_spec {callback : TimerCallback} (h : timerFire callback s = some t) :
    s.timeService.Started callback ∧
      t.timeService.callbacks = callback :: s.timeService.callbacks ∧
      ∀ c, t.timeService.Started c → s.timeService.Started c := by
  unfold timerFire at h
  cases callback with
  | startTransitNextState state =>
    obtain ⟨_, hst, rfl⟩ := Option.map_eq_some_iff.1 h
    refine ⟨by simp [TimeService.Started, hst], rfl, fun c hc => ?_⟩
    cases c with
    | startTransitNextState state' =>
      by_cases hs : state' = state
      · simp [TimeService.Started, hs, hst]
      · simpa [TimeService.Started, Function.update_of_ne hs] using hc
    | startPeriodlyMotionDetection | screenOffHalfHour => exact hc
  | startPeriodlyMotionDetection =>
    obtain ⟨_, hst, rfl⟩ := Option.map_eq_some_iff.1 h
    exact ⟨by simp [TimeService.Started, hst], rfl, fun c hc => by cases c <;> exact hc⟩
  | screenOffHalfHour =>
    obtain ⟨_, hst, rfl⟩ := Option.map_eq_some_iff.1 h
    refine ⟨by simp [TimeService.Started, hst], rfl, fun c hc => ?_⟩
    cases c with
    | startTransitNextState | startPeriodlyMotionDetection => exact hc
    | screenOffHalfHour => exact absurd rfl hc

/-- A callback of a transition or detection timer posts its task. -/
theorem runCallback_frame {callback : TimerCallback} (hne : callback ≠ .screenOffHalfHour) :
    ∃ task, runCallback callback s = s.postTask task ∧
      (callback = .startPeriodlyMotionDetection ∧ task = .repeatedDetection ∨
        ∃ state, callback = .startTransitNextState state ∧ task = .transitNextState state) := by
  cases callback with
  | startTransitNextState state => exact ⟨_, rfl, .inr ⟨state, rfl, rfl⟩⟩
  | startPeriodlyMotionDetection => exact ⟨_, rfl, .inl ⟨rfl, rfl⟩⟩
  | screenOffHalfHour => exact absurd rfl hne

/-- No callback transits by itself. -/
@[simp] theorem runCallback_curState {callback : TimerCallback} :
    (runCallback callback s).curState = s.curState := by
  cases callback <;> simp [runCallback, Service.postTask]

/-- Resetting the state objects stops timers and removes tasks. -/
theorem StateManagerAdapter.resetStates_frame (cfg : StandbyConfig) (s : Service) :
    ∃ timeService tasks,
    StateManagerAdapter.resetStates cfg s =
      { s with
        statesAlive := false
        sleepState.isRepeatedDetection := false
        timeService := timeService
        handler.tasks := tasks
        runningLockStatus := false } := by
  obtain ⟨_, _, h⟩ := endState_frame cfg s.curState s
  simp only [StateManagerAdapter.resetStates, h, destroyAllTimedTask, stopTransitTimedTask,
    stopRepeatedTimedTask, Service.removeTask, stopHalfHourTimer]
  split_ifs <;> exact ⟨_, _, rfl⟩

/-- Resetting the state objects starts no timer, delivers no callback and posts no task. -/
theorem StateManagerAdapter.resetStates_spec (cfg : StandbyConfig) (s : Service) :
    (∀ callback, (StateManagerAdapter.resetStates cfg s).timeService.Started callback →
      s.timeService.Started callback) ∧
    (StateManagerAdapter.resetStates cfg s).timeService.callbacks ⊆ s.timeService.callbacks ∧
    ∀ task ∈ (StateManagerAdapter.resetStates cfg s).handler.tasks, task ∈ s.handler.tasks := by
  have hdestroy : ∀ u : Service,
      (∀ callback, (destroyAllTimedTask cfg u).timeService.Started callback →
        u.timeService.Started callback) ∧
      (destroyAllTimedTask cfg u).timeService.callbacks ⊆ u.timeService.callbacks ∧
      ∀ task ∈ (destroyAllTimedTask cfg u).handler.tasks, task ∈ u.handler.tasks := fun u => by
    refine ⟨fun c h => ?_, fun c h => ?_, fun task h => ?_⟩
    · exact (stopRepeatedTimedTask_started (stopTransitTimedTask_started
        (stopTransitTimedTask_started (stopTransitTimedTask_started
          (stopTransitTimedTask_started h).1).1).1).1).1
    · exact (stopRepeatedTimedTask_callbacks (stopTransitTimedTask_callbacks
        (stopTransitTimedTask_callbacks (stopTransitTimedTask_callbacks
          (stopTransitTimedTask_callbacks h).1).1).1).1).1
    · exact (List.mem_filter.1 (List.mem_filter.1 h).1).1
  have hhalf : ∀ u : Service,
      (∀ callback, (stopHalfHourTimer cfg u).timeService.Started callback →
        u.timeService.Started callback) ∧
      (stopHalfHourTimer cfg u).timeService.callbacks ⊆ u.timeService.callbacks ∧
      (stopHalfHourTimer cfg u).handler.tasks = u.handler.tasks := fun u => by
    unfold stopHalfHourTimer
    split_ifs
    · refine ⟨fun c h => ?_, fun c h => (mem_remainingCallbacks h).1, rfl⟩
      cases c with
      | startTransitNextState | startPeriodlyMotionDetection => exact h
      | screenOffHalfHour => exact absurd rfl h
    · exact ⟨fun _ h => h, fun _ h => h, rfl⟩
  simp only [StateManagerAdapter.resetStates]
  obtain ⟨h1, h2, h3⟩ := hhalf { destroyAllTimedTask cfg (endState cfg s.curState s) with
    statesAlive := false
    sleepState.isRepeatedDetection := false }
  obtain ⟨d1, d2, d3⟩ := hdestroy (endState cfg s.curState s)
  refine ⟨fun c h => (endState_started (d1 c (h1 c h))).1, fun c h =>
    (endState_callbacks (d2 (h2 h))).1, fun task h => ?_⟩
  exact (mem_endState_tasks.1 (d3 task (by rw [← h3]; exact h))).1

/-- The constraint manager's `Init` registers monitors. -/
theorem ConstraintManagerAdapter.init_frame (cfg : StandbyConfig) (p : Platform) (s : Service) :
    ∃ constraintMap monitors,
    ConstraintManagerAdapter.init cfg p s =
      { s with
        constraintManager.hasStateManager := true
        constraintManager.generation := s.constraintManager.generation + 1
        constraintManager.constraintMap := constraintMap
        monitors := monitors } := by
  simp only [ConstraintManagerAdapter.init, Monitor.init, Service.setMonitor]
  split_ifs <;> exact ⟨_, _, rfl⟩

/-- The state manager's `Init` begins WORKING with new state objects. -/
theorem StateManagerAdapter.init_eq (cfg : StandbyConfig) (p : Platform)
    (hready : s.isServiceReady = false) :
    StateManagerAdapter.init cfg p s =
      { s with
        statesAlive := true
        preState := .working
        curState := .working
        isScreenOn := p.isScreenOn
        napState := {}
        maintState := {}
        sleepState := {}
        handler.tasks := s.handler.tasks ++ [.checkScreenStatus]
        runningLockStatus := false } := by
  simp [StateManagerAdapter.init, beginState, WorkingState.beginState, Service.postTask,
    sendNotification, Service.dispatchEvent, hready]

/-- `InitReadyState` initialises the state manager, then the constraint manager. -/
theorem initReadyState_eq (cfg : StandbyConfig) (p : Platform) (hready : s.isServiceReady = false) :
    initReadyState cfg p s =
      { ConstraintManagerAdapter.init cfg p (StateManagerAdapter.init cfg p s) with
        isServiceReady := true } := by
  unfold initReadyState
  rw [if_neg (by rw [hready]; exact Bool.false_ne_true)]

/-- A service that is ready is not initialised again. -/
theorem initReadyState_of_ready (hready : s.isServiceReady = true) :
    initReadyState cfg p s = s := by
  rw [initReadyState, if_pos hready]

/-- `InitReadyState` writes the state objects, the monitors and the screen status, and posts the
task of WORKING. -/
theorem initReadyState_frame (cfg : StandbyConfig) (p : Platform)
    (hready : s.isServiceReady = false) : ∃ constraintMap monitors,
    initReadyState cfg p s =
      { s with
        isServiceReady := true
        statesAlive := true
        preState := .working
        curState := .working
        isScreenOn := p.isScreenOn
        napState := {}
        maintState := {}
        sleepState := {}
        constraintManager.hasStateManager := true
        constraintManager.generation := s.constraintManager.generation + 1
        constraintManager.constraintMap := constraintMap
        monitors := monitors
        handler.tasks := s.handler.tasks ++ [.checkScreenStatus]
        runningLockStatus := false } := by
  obtain ⟨_, _, h⟩ :=
    ConstraintManagerAdapter.init_frame cfg p (StateManagerAdapter.init cfg p s)
  rw [initReadyState_eq cfg p hready, h, StateManagerAdapter.init_eq cfg p hready]
  exact ⟨_, _, rfl⟩

end

/-! ## The transition system -/

/-- What may happen next. -/
inductive Action where
  /-- The time service delivers the callback of a started timer. -/
  | timerFire (callback : TimerCallback)
  /-- A delivered callback runs. -/
  | timerCallback (callback : TimerCallback)
  /-- A sensor of an active monitor reports a motion. -/
  | sensorEvent (m : Monitor)
  /-- The handler runs a pending task. -/
  | runTask (task : Task) (p : Platform)
  /-- A listener hands a message to `DispatchEvent`. -/
  | post (message : StandbyMessage)
  /-- The handler runs the first task of `DispatchEvent`. -/
  | dispatch (p : Platform)
  /-- The task of `StandbyServiceImpl::DayNightSwitchCallback`. -/
  | dayNightSwitch (condition : ConditionType)
  | initReadyState (p : Platform)
  | uninitReadyState (p : Platform)

/-- The platform that an action calls. Timers and listeners call none. -/
def Action.platform? : Action → Option Platform
  | .runTask _ p | .dispatch p | .initReadyState p | .uninitReadyState p => some p
  | _ => none

/-- The platform starts every timer of a state object. -/
def Action.TimersStart (a : Action) : Prop :=
  ∀ p, a.platform? = some p → (∀ state, p.startTimer state = true) ∧ p.startRepeatedTimer = true

instance (a : Action) : Decidable a.TimersStart :=
  decidable_of_iff (a.platform?.all (fun p => p.startTimer .working ∧ p.startTimer .dark ∧
    p.startTimer .nap ∧ p.startTimer .maintenance ∧ p.startTimer .sleep ∧
      p.startRepeatedTimer) = true) <| by
    simp only [Action.TimersStart, Option.all_eq_true, decide_eq_true_eq]
    refine forall₂_congr fun p _ => ⟨fun ⟨hw, hd, hn, hm, hs, hr⟩ => ⟨fun state => ?_, hr⟩,
      fun ⟨h, hr⟩ => ⟨h _, h _, h _, h _, h _, hr⟩⟩
    cases state <;> assumption

/-- What an action does to the service; `crashed` tells whether it ended the process. -/
def act (s : Service) : Action → Option Service
  | .timerFire callback => timerFire callback s
  | .timerCallback callback =>
    if callback ∈ s.timeService.callbacks then
      some (runCallback callback { s with
        timeService.callbacks := s.timeService.callbacks.erase callback })
    else none
  | .sensorEvent m =>
    if (s.monitors m).active = [] then none else some (s.postTask .motionDetected)
  | .runTask task p =>
    if task ∈ s.handler.tasks then
      some (runTask cfg p task { s with handler.tasks := s.handler.tasks.erase task })
    else none
  | .post message => if message.isExternal then some (s.dispatchEvent message) else none
  | .dispatch p =>
    match s.handler.queue with
    | [] => none
    | message :: queue => some (handleEvent cfg p message { s with handler.queue := queue })
  | .dayNightSwitch condition =>
    some (if s.isServiceReady ∧ s.curState = .sleep then
      s.dispatchEvent (.resCtrlConditionChanged condition) else s)
  | .initReadyState p =>
    -- a restart waits until no callback or task of the reset state objects is left
    if s.isServiceReady ∨ (s.timeService.callbacks = [] ∧
        ∀ task ∈ s.handler.tasks, task.name = .motionDection) then
      some (initReadyState cfg p s)
    else none
  | .uninitReadyState p => some (uninitReadyState cfg p s)

/-- One step. An action that ends the process has no successor. -/
def step (s : Service) (a : Action) : Option Service :=
  (act cfg s a).filter fun s' => !s'.crashed

/-- The service as a transition system. It starts before the first `InitReadyState`. -/
def system : Lts.System Service Action where
  init := {}
  step := step cfg

/-- A step is an action that is enabled and does not end the process. -/
theorem system_step_iff {s t : Service} {a : Action} :
    (system cfg).step s a = some t ↔ act cfg s a = some t ∧ t.crashed = false := by
  simp [system, step, Option.filter_eq_some_iff]

/-! ## Actions that are enabled -/

section
variable {cfg} {s t : Service} {p : Platform}

/-- A callback runs when it was delivered. -/
theorem act_timerCallback {callback : TimerCallback}
    (h : act cfg s (.timerCallback callback) = some t) :
    callback ∈ s.timeService.callbacks ∧ runCallback callback { s with
      timeService.callbacks := s.timeService.callbacks.erase callback } = t := by
  simpa [act] using h

/-- A sensor that is active posts the task of its motion. -/
theorem act_sensorEvent {m : Monitor} (h : act cfg s (.sensorEvent m) = some t) :
    (s.monitors m).active ≠ [] ∧ s.postTask .motionDetected = t := by
  simpa [act] using h

/-- A task that is pending runs. -/
theorem act_runTask {task : Task} (h : act cfg s (.runTask task p) = some t) :
    task ∈ s.handler.tasks ∧
      runTask cfg p task { s with handler.tasks := s.handler.tasks.erase task } = t := by
  simpa [act] using h

/-- A message from outside is posted. -/
theorem act_post {message : StandbyMessage} (h : act cfg s (.post message) = some t) :
    message.isExternal = true ∧ s.dispatchEvent message = t := by
  simpa [act] using h

/-- The first message of the queue is handled. -/
theorem act_dispatch (h : act cfg s (.dispatch p) = some t) :
    ∃ message queue, s.handler.queue = message :: queue ∧
      handleEvent cfg p message { s with handler.queue := queue } = t := by
  simp only [act] at h
  split at h
  · cases h
  · exact ⟨_, _, ‹_›, Option.some.inj h⟩

/-- The first message of the queue is an event. -/
theorem act_commonEvent {action : CommonEvent} {queue : List StandbyMessage}
    (hqueue : s.handler.queue = .commonEvent action :: queue)
    (h : act cfg s (.dispatch p) = some t) :
    handleCommonEvent cfg p action { s with handler.queue := queue } = t := by
  simpa only [act, hqueue, handleEvent, Option.some.injEq] using h

/-- A service that is not ready starts when the state objects before have come to rest. -/
theorem act_initReadyState (h : act cfg s (.initReadyState p) = some t) :
    (s.isServiceReady = true ∨ s.timeService.callbacks = [] ∧
      ∀ task ∈ s.handler.tasks, task.name = .motionDection) ∧ initReadyState cfg p s = t := by
  simpa [act] using h

end

/-! ## Concrete runs -/

/-- A configuration in which every state and the motion detection are enabled. -/
def sampleConfig : StandbyConfig where
  napSwitch := true
  sleepSwitch := true
  detectMotion := true
  darkTimeOut := 600
  napTimeOut := 1800
  napMaintTimeOut := 120
  sleepMaintTimeOut := 120
  napMaintDuration := [1200]
  sleepMaintDuration := [1200]
  halfHourTimer := true
  stopTimerDrains := true

/-- A platform whose calls all succeed, on a device that is not charging. -/
def samplePlatform : Platform where
  wallTimeMs := 0
  isCharging := false
  isScreenOn := true
  startTimer _ := true
  startRepeatedTimer := true
  startHalfHourTimer := true
  subscribeSensor _ _ := true
  activateSensor _ _ := true
  usableSensors _ := [.accelerometer]
  conditionAfter _ := .dayStandby
  timeDiffToDayNightSwitch := none
  randomDelay := 0
  napTimeOut := 1800000

/-- A common event is posted and handled. -/
def handling (action : CommonEvent) (p : Platform) : List Action :=
  [.post (.commonEvent action), .dispatch p]

/-- The transition timer of a state fires and its task runs. -/
def elapsing (state : StandbyState) (p : Platform) : List Action :=
  [.timerFire (.startTransitNextState state), .timerCallback (.startTransitNextState state),
    .runTask (.transitNextState state) p]

end DeviceStandby
