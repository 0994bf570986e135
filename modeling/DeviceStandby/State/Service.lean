import DeviceStandby.Core.Message
import Mathlib.Logic.Function.Basic
import Mathlib.Tactic.SplitIfs
import Mathlib.Tactic.Tauto

/-!
# The state of the service

One record for what the handler thread reads and writes: the state manager with its state objects,
the constraint manager with its monitors, the time service and the handler's tasks. What a platform
call answers is a `Platform`, given anew with every step. `trace` is a history that no function
reads; the properties of runs are stated over it.

All tasks run on the handler's thread one after another, so a step is one task. Delayed tasks and
timers carry no clock: any pending task may be the next one, and any started timer may fire.
Messages of `DispatchEvent` keep their order.
-/

namespace DeviceStandby

/-- The parameters that `StandbyConfigManager` holds, fixed while the service runs, and what is
known about the time service. -/
structure StandbyConfig where
  napSwitch : Bool
  sleepSwitch : Bool
  detectMotion : Bool
  darkTimeOut : Int
  napTimeOut : Int
  napMaintTimeOut : Int
  sleepMaintTimeOut : Int
  napMaintDuration : List Int
  sleepMaintDuration : List Int
  /-- Whether the timer of `OnScreenOffHalfHour` is compiled in and was created. -/
  halfHourTimer : Bool
  /-- Whether `StopTimer` also drops a callback that the time service has already delivered. -/
  stopTimerDrains : Bool

/-- The sensors that detect motion. -/
inductive SensorType where
  | accelerometer | significantMotion
  deriving DecidableEq, Repr

/-- The constraint monitors. `ConstraintManagerAdapter::Init` creates one of each kind. -/
inductive MonitorKind where
  | charge | motion | repeatedMotion
  deriving DecidableEq, Repr

/-- A monitor object: its kind, and which `Init` of the constraint manager created it. A monitor of
an earlier `Init` lives on in the tasks that hold it. -/
structure Monitor where
  kind : MonitorKind
  generation : Nat
  deriving DecidableEq, Repr

/-- What the platform answers during one step. -/
structure Platform where
  wallTimeMs : Int
  /-- The battery client reports `CHARGE_STATE_ENABLE` or `CHARGE_STATE_FULL`. -/
  isCharging : Bool
  /-- `PowerMgrClient::IsScreenOn`. -/
  isScreenOn : Bool
  /-- `StartTimer` for the transition timer of a state. -/
  startTimer : StandbyState → Bool
  startRepeatedTimer : Bool
  startHalfHourTimer : Bool
  subscribeSensor : MonitorKind → SensorType → Bool
  activateSensor : MonitorKind → SensorType → Bool
  /-- The sensors of `GetAllSensors` that a monitor can use; empty when the call fails. -/
  usableSensors : MonitorKind → List SensorType
  /-- `TimeProvider::GetCondition` after a number of seconds. -/
  conditionAfter : Int → ConditionType
  /-- `TimeProvider::TimeDiffToDayNightSwitch`. -/
  timeDiffToDayNightSwitch : Option Int
  randomDelay : Int
  /-- `TimeProvider::GetNapTimeOut`. -/
  napTimeOut : Int

/-- A callback of a one-shot or repeating timer. -/
inductive TimerCallback where
  /-- `StartTransitNextState` of a state object. -/
  | startTransitNextState (state : StandbyState)
  /-- `SleepState::StartPeriodlyMotionDetection`. -/
  | startPeriodlyMotionDetection
  /-- `OnScreenOffHalfHour(true, false)`. -/
  | screenOffHalfHour
  deriving DecidableEq, Repr

/-- The timers that were started, with their trigger times, and the callbacks that the time service
has delivered and that have not run yet. -/
structure TimeService where
  enterStandbyTimer : StandbyState → Option Int := fun _ => none
  repeatedDetectionTimer : Option Int := none
  scrOffHalfHourTimer : Option Int := none
  callbacks : List TimerCallback := []

/-- The timer of a callback has been started. -/
def TimeService.Started (timeService : TimeService) : TimerCallback → Prop
  | .startTransitNextState state => timeService.enterStandbyTimer state ≠ none
  | .startPeriodlyMotionDetection => timeService.repeatedDetectionTimer ≠ none
  | .screenOffHalfHour => timeService.scrOffHalfHourTimer ≠ none

/-- The state whose `EndState` stops the timer of a callback. -/
def TimerCallback.owner : TimerCallback → Option StandbyState
  | .startTransitNextState state => some state
  | .startPeriodlyMotionDetection => some .sleep
  | .screenOffHalfHour => none

/-- The names that `RemoveTask` selects by. -/
inductive TaskName where
  | transitNextStateTimed | transitNextStateCondition | transitNextPhaseInstant
  | repeatedMotionDetection | motionDection
  deriving DecidableEq, Repr

/-- The tasks that the state machine posts. -/
inductive Task where
  /-- The task of `BaseState::StartTransitNextState`. -/
  | transitNextState (state : StandbyState)
  /-- The task of `WorkingState::BeginState`. -/
  | checkScreenStatus
  /-- The phase tasks of NAP and SLEEP; the one of `BeginState` takes the running lock first. -/
  | transitToNapPhase (acquire : Bool)
  | transitToSleepPhase (acquire : Bool)
  /-- The task of `SleepState::StartPeriodlyMotionDetection`. -/
  | repeatedDetection
  /-- The task of `MotionSensorMonitor::StartMonitoring` after the total timeout. -/
  | motionTotalTimeOut
  /-- The task of a sensor callback. -/
  | motionDetected
  /-- The tasks of `StopMotionDetection` and `PeriodlyStartMotionDetection`. -/
  | stopMotionDetection (monitor : Monitor)
  | periodlyStartMotionDetection (monitor : Monitor)
  deriving DecidableEq, Repr

/-- The name a task is posted under. -/
def Task.name : Task → TaskName
  | .transitNextState _ => .transitNextStateTimed
  | .checkScreenStatus => .transitNextStateCondition
  | .transitToNapPhase _ | .transitToSleepPhase _ => .transitNextPhaseInstant
  | .repeatedDetection => .repeatedMotionDetection
  | .motionTotalTimeOut | .motionDetected | .stopMotionDetection _
  | .periodlyStartMotionDetection _ => .motionDection

/-- The handler: its tasks, and the messages of `DispatchEvent` in the order they were posted. -/
structure Handler where
  tasks : List Task := []
  queue : List StandbyMessage := []

/-- The fields of `IStateManagerAdapter` and `StateManagerAdapter`, but for those of the half-hour
control. The current and the previous state object are given by their states. -/
structure StateManagerAdapter where
  isEvalution : Bool := false
  isBlocked : Bool := false
  preState : StandbyState := .working
  curState : StandbyState := .working
  isScreenOn : Bool := false
  isSleepState : Bool := false
  /-- `indexToState_` holds state objects; `UnInit` resets them. -/
  statesAlive : Bool := false

/-- The fields of `IStateManagerAdapter` for the half hour after the screen went off. -/
structure ScreenOffHalfHour where
  screenOffTimeStamp : Int := 0
  scrOffHalfHourCtrl : Bool := false

/-- The fields of `NapState`. -/
structure NapState where
  curPhase : Nat := 0
  nextState : StandbyState := .nap
  maintIntervalIndex : Nat := 0

/-- The field of `MaintenanceState` that changes. -/
structure MaintenanceState where
  nextState : StandbyState := .working

/-- The fields of `SleepState`. Its next state is MAINTENANCE throughout. -/
structure SleepState where
  curPhase : Nat := 0
  maintIntervalIndex : Nat := 0
  isRepeatedDetection : Bool := false

/-- The fields of `ConstraintManagerAdapter`. -/
structure ConstraintManagerAdapter where
  isEvaluation : Bool := false
  curMonitor : Option Monitor := none
  /-- `constraintMap_`, from the hash of a parameter to its monitor. -/
  constraintMap : List (Nat × Monitor) := []
  /-- `stateManager_` can be locked. -/
  hasStateManager : Bool := false
  /-- How often `Init` has run. -/
  generation : Nat := 0

/-- The fields of a `MotionSensorMonitor`, and which of its sensor users are subscribed and active
at the sensor service. -/
structure MotionSensorMonitor where
  sensorUserMap : List SensorType := []
  isMonitoring : Bool := false
  subscribed : List SensorType := []
  active : List SensorType := []

/-- What `Service.trace` records. -/
inductive Trace where
  /-- The state manager handled a common event. -/
  | handled (action : CommonEvent)
  /-- `DispatchEvent` posted a message. -/
  | dispatched (message : StandbyMessage)
  /-- `TransitToStateInner` changed the state. -/
  | transited (preState curState : StandbyState)
  /-- A user-sleep event began SLEEP anew. -/
  | sleepRebegun
  /-- `StartEvalCurrentState` was called. -/
  | startEval (params : ConstraintEvalParam)
  /-- The constraint manager took the request. -/
  | acceptEval (params : ConstraintEvalParam)
  /-- The result of an evaluation was delivered to the current state, which took it as the answer
  to this request; `none` is a state that ignores results. -/
  | endEval (consumed : Option ConstraintEvalParam)
  deriving DecidableEq, Repr

/-- The state of the service. Its state manager's fields are its own. -/
structure Service extends StateManagerAdapter where
  isServiceReady : Bool := false
  /-- A reset state object was used, which ends the process. -/
  crashed : Bool := false
  halfHour : ScreenOffHalfHour := {}
  napState : NapState := {}
  maintState : MaintenanceState := {}
  sleepState : SleepState := {}
  constraintManager : ConstraintManagerAdapter := {}
  monitors : Monitor → MotionSensorMonitor := fun _ => {}
  timeService : TimeService := {}
  handler : Handler := {}
  /-- `BaseState::runningLockStatus_`. -/
  runningLockStatus : Bool := false
  /-- What has happened, newest first. -/
  trace : List Trace := []

namespace Service

/-- `curStatePtr_->GetCurInnerPhase()`. Only NAP and SLEEP leave phase 0. -/
def curInnerPhase (s : Service) : Nat :=
  match s.curState with
  | .nap => s.napState.curPhase
  | .sleep => s.sleepState.curPhase
  | _ => 0

/-- `EventHandler::PostTask`. -/
def postTask (task : Task) (s : Service) : Service :=
  { s with handler.tasks := s.handler.tasks ++ [task] }

theorem mem_postTask {s : Service} {task posted : Task} :
    task ∈ (s.postTask posted).handler.tasks ↔ task ∈ s.handler.tasks ∨ task = posted := by
  simp [postTask]

/-- `EventHandler::RemoveTask`: every pending task of the name. -/
def removeTask (name : TaskName) (s : Service) : Service :=
  { s with handler.tasks := s.handler.tasks.filter (·.name ≠ name) }

/-- `StandbyServiceImpl::DispatchEvent`: nothing is posted while the service is not ready. -/
def dispatchEvent (message : StandbyMessage) (s : Service) : Service :=
  { s with
    handler.queue := if s.isServiceReady then s.handler.queue ++ [message] else s.handler.queue
    trace := if s.isServiceReady then .dispatched message :: s.trace else s.trace }

/-- Add to the history. -/
def log (entry : Trace) (s : Service) : Service :=
  { s with trace := entry :: s.trace }

/-- `BaseState::AcquireStandbyRunningLock`. -/
def acquireStandbyRunningLock (s : Service) : Service :=
  { s with runningLockStatus := true }

/-- `BaseState::ReleaseStandbyRunningLock`. -/
def releaseStandbyRunningLock (s : Service) : Service :=
  { s with runningLockStatus := false }

end Service

end DeviceStandby
