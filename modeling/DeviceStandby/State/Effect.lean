import DeviceStandby.State.Step

/-!
# The effects a step is made of

Every step is a chain of the writes listed in `Effect` (`step_chain`). A constructor's hypotheses
are what the code has checked when it makes the write, and where the write comes from: `s₀` is the
state in which the step began and `a` its action, so that a guard can say which task is running and
what has not changed since it started. An invariant that every effect keeps is kept by every step.
-/

namespace DeviceStandby

open Relation

variable (cfg : StandbyConfig) (s₀ : Service) (a : Action)

/-- What `HandleCommonEvent` notes before it reacts. -/
def recordEvent (p : Platform) (action : CommonEvent) (s : Service) : Service :=
  handleScreenStatus action (handleScrOffHalfHour cfg p action (s.log (.handled action)))

/-- What `HandleCommonEvent` does for the action itself. -/
def respond (p : Platform) (action : CommonEvent) (s : Service) : Service :=
  if action.isWakeUp then transitToWorking cfg p s else handleAction cfg p action s

/-- Whether the screen counts as on once an event has been recorded. -/
def screenOnAfter (action : CommonEvent) (s : Service) : Bool :=
  match action with
  | .screenOn => true
  | .screenOff => false
  | _ => s.isScreenOn

/-- A common event is recorded, answered, and may then begin DARK. -/
theorem handleCommonEvent_eq (p : Platform) (action : CommonEvent) (s : Service) :
    handleCommonEvent cfg p action s =
      tryEnterDark cfg p action (respond cfg p action (recordEvent cfg p action s)) := by
  cases action <;>
    simp [handleCommonEvent, recordEvent, respond, CommonEvent.isWakeUp, handleOpenCloseLid,
      handleScreenStatus, handleAction, handleScrOffHalfHour, transitToState_working]

/-- The fields that decide a transition are as they were when the step began. -/
structure SameSince (s : Service) : Prop where
  curState : s.curState = s₀.curState
  preState : s.preState = s₀.preState
  isScreenOn : s.isScreenOn = s₀.isScreenOn
  napState : s.napState = s₀.napState
  maintState : s.maintState = s₀.maintState
  sleepPhase : s.sleepState.curPhase = s₀.sleepState.curPhase

/-- `TransitToState(nextState)` is called in `s`: an event or a result asks for WORKING, the screen
check asks for DARK, or a transition task asks for the next state of its state object. -/
inductive Asked (s : Service) : StandbyState → Prop where
  | wake : Asked s .working
  | dark (hcur : s.curState = .working) (hscreen : s.isScreenOn = false) :
      Asked s .dark
  | task {state : StandbyState} {p : Platform} (ha : a = .runTask (.transitNextState state) p)
      (hmem : .transitNextState state ∈ s₀.handler.tasks) (hsame : SameSince s₀ s) :
      Asked s (nextStateOf cfg state s₀)

variable {cfg s₀ a} in
/-- Outside of WORKING, a state other than WORKING is asked for by a transition task. -/
theorem Asked.task_inv {s : Service} {nextState : StandbyState} (h : Asked cfg s₀ a s nextState)
    (hcur : s.curState ≠ .working) (hnext : nextState ≠ .working) :
    ∃ state p, a = .runTask (.transitNextState state) p ∧
      .transitNextState state ∈ s₀.handler.tasks ∧ SameSince s₀ s ∧
      nextState = nextStateOf cfg state s₀ := by
  cases h with
  | wake => exact absurd rfl hnext
  | dark hw => exact absurd hw hcur
  | task ha hmem hsame => exact ⟨_, _, ha, hmem, hsame, rfl⟩

/-- `StartEvalCurrentState(params)` is called in `s`. Only an event can lift a block before the
request, and it asks for DARK. -/
inductive Request (s : Service) : ConstraintEvalParam → Prop where
  | enter {nextState : StandbyState} (hask : Asked cfg s₀ a s nextState)
      (hcur : s.curState ≠ .maintenance) (hnext : nextState ≠ .maintenance)
      (hlt : s.curState.toNat < nextState.toNat)
      (hblocked : s.isBlocked = false) (hsame : nextState = .dark ∨ s₀.isBlocked = false) :
      Request s ⟨s.curState, s.curInnerPhase, nextState, 0, false⟩
  | napPhase {acquire : Bool} {p : Platform} (ha : a = .runTask (.transitToNapPhase acquire) p)
      (hmem : .transitToNapPhase acquire ∈ s₀.handler.tasks) (hsame : SameSince s₀ s) :
      Request s ⟨.nap, s.napState.curPhase, .nap, s.napState.curPhase + 1, false⟩
  | sleepPhase {acquire : Bool} {p : Platform}
      (ha : a = .runTask (.transitToSleepPhase acquire) p)
      (hmem : .transitToSleepPhase acquire ∈ s₀.handler.tasks) (hsame : SameSince s₀ s) :
      Request s ⟨.sleep, s.sleepState.curPhase, .sleep, s.sleepState.curPhase + 1, false⟩
  | repeated {p : Platform} (ha : a = .runTask .repeatedDetection p)
      (hmem : .repeatedDetection ∈ s₀.handler.tasks) (hsame : SameSince s₀ s) :
      Request s ⟨.sleep, s.sleepState.curPhase, .sleep, s.sleepState.curPhase, true⟩

/-- A result has been delivered to the current state of `s`: by a motion task of an evaluation that
was running when the step began, or at once for a request of this step. Only the charge monitor
answers at once, and without a monitor the answer is `true`. -/
inductive Answer (s : Service) (evalResult : Bool) : Prop where
  | motion {task : Task} {p : Platform} (ha : a = .runTask task p)
      (htask : task = if evalResult then .motionTotalTimeOut else .motionDetected)
      (hev : s₀.isEvalution = true) (hsame : SameSince s₀ s)
  | atOnce {params : ConstraintEvalParam} (hreq : Request cfg s₀ a s params)
      (hfalse : evalResult = false → ∃ m, s.constraintManager.constraintMap.lookup
        params.getHashValue = some m ∧ m.kind = .charge)
      (hmonitor : ∀ m, s.constraintManager.constraintMap.lookup params.getHashValue = some m →
        m.kind = .charge)

/-- The motion monitor `m` starts its sensors: its evaluation has just begun, or its periodic task
is running. -/
inductive Sensing (m : Monitor) (s : Service) : Prop where
  | begun (hev : s.isEvalution = true)
      (heval : s.constraintManager.isEvaluation = true)
      (hcur : s.constraintManager.curMonitor = some m) (hkind : m.kind ≠ .charge)
      {params : ConstraintEvalParam} (hreq : Request cfg s₀ a s params)
  | periodic {p : Platform} (ha : a = .runTask (.periodlyStartMotionDetection m) p)
      (hmem : .periodlyStartMotionDetection m ∈ s₀.handler.tasks)
      (hev : s.isEvalution = s₀.isEvalution)
      (hcm : s.constraintManager = s₀.constraintManager) (hsame : SameSince s₀ s)

/-- Why the current state is blocked: a result, a transition task that could not transit, or sensors
that did not start. -/
inductive Blocking (s : Service) : Prop where
  | result (h : Answer cfg s₀ a s false)
  | task {state : StandbyState} {p : Platform} (ha : a = .runTask (.transitNextState state) p)
      (hmem : .transitNextState state ∈ s₀.handler.tasks)
  | sensor {m : Monitor} (h : Sensing cfg s₀ a m s)

/-- The common event that this step handles. -/
def Handles (action : CommonEvent) : Prop :=
  ∃ p, a = .dispatch p ∧ ∃ queue, s₀.handler.queue = .commonEvent action :: queue

/-- The events that hold the device in SLEEP: forced sleep, and user sleep. -/
def CommonEvent.isHold : CommonEvent → Bool
  | .enterForceSleep | .userSleepStateChanged (some true) => true
  | _ => false

/-- Why `TransitToStateInner(nextState)` is called in `s`. -/
inductive Transition (s : Service) : StandbyState → Prop where
  /-- `ExitStandby`, which has stopped the evaluation, unblocked the state and lifted the half-hour
  control. -/
  | exit {nextState : StandbyState} (hask : Asked cfg s₀ a s nextState)
      (hcur : s.curState ≠ .maintenance) (hnext : nextState ≠ .maintenance)
      (hlt : nextState.toNat < s.curState.toNat)
      (hvalid : checkTransitionValid s.curState nextState = true)
      (hev : s.isEvalution = false) (hblocked : s.isBlocked = false)
      (hlifted : s.halfHour.scrOffHalfHourCtrl = false) :
      Transition s nextState
  /-- `TransitWithMaint`. -/
  | maint {nextState : StandbyState} (hask : Asked cfg s₀ a s nextState)
      (hne : s.curState ≠ nextState)
      (hmaint : nextState = .maintenance ∨ s.curState = .maintenance)
      (hvalid : checkTransitionValid s.curState nextState = true)
      (hev : nextState = .working ∨ s.isEvalution = false)
      (hlifted : nextState = .working → s.halfHour.scrOffHalfHourCtrl = false) :
      Transition s nextState
  /-- A result of WORKING. -/
  | workingResult (hans : Answer cfg s₀ a s true) (hcur : s.curState = .working)
      (hev : s.isEvalution = false) : Transition s .dark
  /-- A result of DARK. -/
  | darkResult (hans : Answer cfg s₀ a s true) (hcur : s.curState = .dark)
      (hnext : cfg.darkNextState ≠ .dark) (hev : s.isEvalution = false) :
      Transition s cfg.darkNextState
  /-- A result of NAP in its last phase. -/
  | napResult (hans : Answer cfg s₀ a s true) (hcur : s.curState = .nap)
      (hev : s.isEvalution = false) (hphase : s.napState.curPhase = NapStatePhase.END)
      (hnext : s.napState.nextState ≠ .nap) : Transition s .sleep
  /-- `TransitHoldSleepState`. -/
  | hold {action : CommonEvent} (ha : Handles s₀ a action) (hhold : action.isHold = true)
      (hlog : s.trace.head? = some (.handled action)) (hcur : s.curState ≠ .sleep)
      (hsame : s.curState = s₀.curState) (hpre : s.preState = s₀.preState)
      (hev : s.isEvalution = s₀.isEvalution)
      (hscreen : action = .enterForceSleep ∨ s₀.isScreenOn = false) :
      Transition s .sleep

/-- One write of a step. -/
inductive Effect : Service → Service → Prop where
  /-- A common event is taken from the queue and recorded. -/
  | record {s : Service} {action : CommonEvent} {queue : List StandbyMessage} {p : Platform}
      (ha : a = .dispatch p) (hqueue : s₀.handler.queue = .commonEvent action :: queue)
      (hs : s = s₀) :
      Effect s (recordEvent cfg p action { s with handler.queue := queue })
  | unblock (s : Service) : Effect s (unblockCurrentState s)
  | block (p : Platform) {s : Service} (h : Blocking cfg s₀ a s)
      (hp : a.platform? = some p) : Effect s (blockCurrentState cfg p s)
  | stop (s : Service) : Effect s (stopEvalution s)
  /-- The half-hour control changes. Only shell commands repeat a report. -/
  | halfHour (scrOffHalfHourCtrl : Bool) (s : Service) :
      Effect s (onScreenOffHalfHourInner scrOffHalfHourCtrl false s)
  | transit (p : Platform) {s : Service} {nextState : StandbyState}
      (h : Transition cfg s₀ a s nextState) (hp : a.platform? = some p) :
      Effect s (transitToStateInner cfg p nextState s)
  /-- The constraint manager refuses a second evaluation. -/
  | startRejected {s : Service} {params : ConstraintEvalParam}
      (hreq : Request cfg s₀ a s params) (hbusy : s.constraintManager.isEvaluation = true) :
      Effect s { s with
        isEvalution := true
        trace := .startEval params :: s.trace }
  | startAccepted {s : Service} {params : ConstraintEvalParam}
      (hreq : Request cfg s₀ a s params) (hidle : s.constraintManager.isEvaluation = false) :
      Effect s { s with
        isEvalution := true
        constraintManager.isEvaluation := true
        constraintManager.curMonitor :=
          s.constraintManager.constraintMap.lookup params.getHashValue
        trace := .acceptEval params :: .startEval params :: s.trace }
  /-- `MotionSensorMonitor::StartMonitoring` posts the total timeout. -/
  | startMotion {m : Monitor} {s : Service} (h : Sensing cfg s₀ a m s)
      (heval : s.constraintManager.isEvaluation = true)
      (hcur : s.constraintManager.curMonitor = some m) : Effect s (s.postTask .motionTotalTimeOut)
  | startSensor {p : Platform} {m : Monitor} {s : Service} {monitor : MotionSensorMonitor}
      (h : Sensing cfg s₀ a m s)
      (hok : (s.monitors m).startMonitoringInner p m.kind = (.ok, monitor)) :
      Effect s (((s.setMonitor m monitor).postTask (.stopMotionDetection m)).postTask
        (.periodlyStartMotionDetection m))
  | startSensorFailed {p : Platform} {m : Monitor} {s : Service} {err : ErrCode}
      {monitor : MotionSensorMonitor} (h : Sensing cfg s₀ a m s) (hne : err ≠ .ok)
      (herr : (s.monitors m).startMonitoringInner p m.kind = (err, monitor)) :
      Effect s (s.setMonitor m monitor)
  /-- `EndEvalCurrentState` ends the evaluation, before the state takes the result. -/
  | finish {s : Service} {evalResult : Bool} (hans : Answer cfg s₀ a s evalResult)
      (hev : s.isEvalution = true) :
      Effect s ((finishEvalution s).log (.endEval (consumedRequest cfg (finishEvalution s))))
  | napPhase {s : Service} {evalResult : Bool} (hans : Answer cfg s₀ a s evalResult)
      (hcur : s.curState = .nap) (hphase : s.napState.curPhase ≠ NapStatePhase.END)
      (hev : s.isEvalution = false) :
      Effect s (NapState.setPhaseTransitTask evalResult s)
  | sleepPhase (p : Platform) {s : Service} {evalResult : Bool}
      (hans : Answer cfg s₀ a s evalResult) (hcur : s.curState = .sleep)
      (hphase : s.sleepState.curPhase < SleepStatePhase.END)
      (hev : s.isEvalution = false) (hp : a.platform? = some p) :
      Effect s (SleepState.endEvalPhase cfg p evalResult s)
  | setRepeated (isRepeatedDetection : Bool) (s : Service) :
      Effect s { s with sleepState.isRepeatedDetection := isRepeatedDetection }
  | runningLock (status : Bool) (s : Service) : Effect s { s with runningLockStatus := status }
  | sleepFlag (isSleepState : Bool) (s : Service) :
      Effect s { s with isSleepState := isSleepState }
  /-- A user-sleep-false event begins SLEEP anew. -/
  | rebegin {p : Platform} {s : Service}
      (ha : Handles s₀ a (.userSleepStateChanged (some false))) (hcur : s.curState = .sleep)
      (hsame : s.curState = s₀.curState) (hpre : s.preState = s₀.preState)
      (hev : s.isEvalution = s₀.isEvalution)
      (hscreen : s₀.isScreenOn = false) :
      Effect s (SleepState.beginState cfg p (s.log .sleepRebegun))
  /-- `TransitHoldSleepState` stops the timers of SLEEP. -/
  | holdTimers {s : Service} {action : CommonEvent} (ha : Handles s₀ a action)
      (hhold : action.isHold = true)
      (hscreen : action = .enterForceSleep ∨ s₀.isScreenOn = false) (hcur : s.curState = .sleep) :
      Effect s (stopRepeatedTimedTask cfg (stopTransitTimedTask cfg .sleep s))
  /-- A message is taken from the queue that the state manager does not react to. -/
  | skip {s : Service} {message : StandbyMessage} {queue : List StandbyMessage} {p : Platform}
      (ha : a = .dispatch p) (hqueue : s₀.handler.queue = message :: queue) (hs : s = s₀) :
      Effect s { s with handler.queue := queue }
  | takeTask {s : Service} {task : Task} {p : Platform} (ha : a = .runTask task p)
      (hmem : task ∈ s₀.handler.tasks) (hs : s = s₀) :
      Effect s { s with handler.tasks := s.handler.tasks.erase task }
  | stopDetection {s : Service} {m : Monitor} {p : Platform}
      (ha : a = .runTask (.stopMotionDetection m) p)
      (hmem : .stopMotionDetection m ∈ s₀.handler.tasks) :
      Effect s (s.setMonitor m (s.monitors m).stopMonitoringInner)
  | callback {s : Service} {callback : TimerCallback} (hmem : callback ∈ s.timeService.callbacks)
      (hs : s = s₀) (hne : callback ≠ .screenOffHalfHour) :
      Effect s (runCallback callback
        { s with timeService.callbacks := s.timeService.callbacks.erase callback })
  | takeHalfHour (s : Service) :
      Effect s
        { s with timeService.callbacks := s.timeService.callbacks.erase .screenOffHalfHour }
  | fire {s t : Service} {callback : TimerCallback} (h : timerFire callback s = some t) :
      Effect s t
  | sensorEvent {s : Service} {m : Monitor} (h : (s.monitors m).active ≠ []) :
      Effect s (s.postTask .motionDetected)
  | post {s : Service} {message : StandbyMessage} (h : message.isExternal = true) :
      Effect s (s.dispatchEvent message)
  | conditionChanged {s : Service} (condition : ConditionType) (hcur : s.curState = .sleep) :
      Effect s (s.dispatchEvent (.resCtrlConditionChanged condition))
  | init {p : Platform} {s : Service} (hready : s.isServiceReady = false)
      (hcallbacks : s.timeService.callbacks = [])
      (htasks : ∀ task ∈ s.handler.tasks, task.name = .motionDection) :
      Effect s (initReadyState cfg p s)
  | unInitConstraints {p : Platform} {s : Service} (ha : a = .uninitReadyState p) (hs : s = s₀)
      (hready : s.isServiceReady = true) :
      Effect s (ConstraintManagerAdapter.unInit s)
  | resetStates {p : Platform} {s : Service} (ha : a = .uninitReadyState p)
      (hcur : s.curState = .working) (hmap : s.constraintManager.constraintMap = []) :
      Effect s { StateManagerAdapter.resetStates cfg s with isServiceReady := false }

end DeviceStandby
