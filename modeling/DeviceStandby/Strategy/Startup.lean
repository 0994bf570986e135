import DeviceStandby.Strategy.Restart

/-!
# Starting the service step by step

`InitReadyState` initialises the state manager, the strategies, the constraint manager and the
listeners, and returns at the first that fails. Nothing of what was initialised before is undone,
and the next attempt starts from there: timers, tasks and list entries add up. Only an attempt that
fails before it has created a timer leaves nothing (`startup_iff`). What follows once every module
is initialised, the time observer and the persistent data, is left out.
-/

namespace DeviceStandby

/-- The timers of the state manager and its state objects. -/
inductive CreatedTimer where
  | scrOffHalfHour
  | enterStandby (state : StandbyState)
  | repeatedDetection
  deriving DecidableEq, Repr

/-- `StandbyMode`. -/
inductive StandbyMode where
  | unknown | tabletMode | phoneMode | watchMode | tvMode | iviMode
  deriving DecidableEq, Repr

/-- The classes that implement `IMesssageListener`. -/
inductive MessageListener where
  | inputManager | backgroundTask
  deriving DecidableEq, Repr

/-- What the build enables. -/
structure StartupConfig where
  /-- `STANDBY_REALTIME_TIMER_ENABLE`, which leaves the half-hour timer out. -/
  realtimeTimer : Bool
  /-- `STANDBY_MULTIMODALINPUT_INPUT_ENABLE`. -/
  multimodalInput : Bool
  /-- `ENABLE_BACKGROUND_TASK_MGR`. -/
  backgroundTaskMgr : Bool

/-- What one `InitReadyState` finds. -/
structure Attempt where
  platform : Platform
  /-- `TimedTask::CreateTimer` returns a timer. -/
  createTimer : CreatedTimer → Bool
  /-- `StandbyConfigManager::GetInstance()` is there. -/
  configManager : Bool
  /-- `stateManager_` of the constraint manager has not expired. -/
  stateManager : Bool
  /-- `STANDBT_MODE`. -/
  mode : StandbyMode

/-- The service with what its modules hold besides: the timers that exist at the time service, each
by what it was created for, and the lists of the constraint and the listener manager. -/
structure Modules where
  standby : Standby := {}
  timers : List CreatedTimer := []
  constraintMonitorList : List Monitor := []
  messageListenerList : List MessageListener := []
  listenerPluginMap : List (Int × MessageListener) := []
  /-- The listeners that were started. -/
  started : List MessageListener := []

/-- Write the service. -/
def Modules.setService (service : Service) (m : Modules) : Modules :=
  { m with standby := { m.standby with service := service } }

section
variable (cfg : StandbyConfig) (scfg : StrategyConfig) (ucfg : StartupConfig) (a : Attempt)

/-! ## The state manager -/

/-- `TimedTask::CreateTimer`, and whether it returns a timer. -/
def createTimer (timer : CreatedTimer) (m : Modules) : Bool × Modules :=
  if a.createTimer timer then (true, { m with timers := m.timers ++ [timer] }) else (false, m)

/-- `BaseState::Init`, and whether it returns `ERR_OK`. -/
def BaseState.init (state : StandbyState) (m : Modules) : Bool × Modules :=
  createTimer a (.enterStandby state) m

/-- `SleepState::Init`. -/
def SleepState.init (m : Modules) : Bool × Modules :=
  match createTimer a (.enterStandby .sleep) m with
  | (false, m) => (false, m)
  | (true, m) => if ¬ cfg.detectMotion then (true, m) else createTimer a .repeatedDetection m

/-- `Init` of a state object. `WorkingState::Init` does nothing. -/
def initState (state : StandbyState) (m : Modules) : Bool × Modules :=
  match state with
  | .working => (true, m)
  | .sleep => SleepState.init cfg a m
  | .dark | .nap | .maintenance => BaseState.init a state m

/-- The loop over `indexToState_`. -/
def initStates : List StandbyState → Modules → Bool × Modules
  | [], m => (true, m)
  | state :: states, m =>
    match initState cfg a state m with
    | (false, m) => (false, m)
    | (true, m) => initStates states m

/-- The first lines of `StateManagerAdapter::Init`: the running lock and new state objects. -/
def StateManagerAdapter.createStates (s : Service) : Service :=
  { s with
    runningLockStatus := false
    napState := {}
    maintState := {}
    sleepState := {}
    statesAlive := true }

/-- The last lines of `StateManagerAdapter::Init`. `WorkingState::BeginState` never fails. -/
def StateManagerAdapter.beginWorking (s : Service) : Service :=
  let s := { s with
    curState := .working
    preState := .working
    isScreenOn := a.platform.isScreenOn }
  sendNotification .working true (beginState cfg a.platform .working s)

/-- `StateManagerAdapter::Init`. A half-hour timer that is not created is only logged. -/
def StateManagerAdapter.initModule (m : Modules) : Bool × Modules :=
  let m := m.setService (StateManagerAdapter.createStates m.standby.service)
  let m := if ucfg.realtimeTimer then m else (createTimer a .scrOffHalfHour m).2
  match initStates cfg a [.working, .dark, .nap, .maintenance, .sleep] m with
  | (false, m) => (false, m)
  | (true, m) =>
    (true, m.setService (StateManagerAdapter.beginWorking cfg a m.standby.service))

/-! ## The other modules -/

/-- `StrategyManagerAdapter::Init`. What the strategies dispatch goes to the queue of a ready
service only. -/
def StrategyManagerAdapter.initModule (m : Modules) : Bool × Modules :=
  if ¬ a.configManager then (false, m)
  else (true, { m with standby := (StrategyManagerAdapter.init scfg m.standby).flush })

/-- `ConstraintManagerAdapter::RegisterConstraintCallback`: the first monitor stays. -/
def registerConstraintCallback (params : ConstraintEvalParam) (m : Monitor) (s : Service) :
    Service :=
  if (s.constraintManager.constraintMap.lookup params.getHashValue).isSome then s
  else
    { s with constraintManager.constraintMap :=
        s.constraintManager.constraintMap ++ [(params.getHashValue, m)] }

/-- `Init` of a monitor that may have been initialised before: its sensors stay in
`sensorUserMap_`. -/
def Monitor.initAgain (p : Platform) (s : Service) (m : Monitor) : Service :=
  match m.kind with
  | .charge => registerConstraintCallback m.kind.params m s
  | .motion | .repeatedMotion =>
    if p.usableSensors m.kind = [] then s
    else
      let monitor := s.monitors m
      let added := (p.usableSensors m.kind).filter (· ∉ monitor.sensorUserMap)
      registerConstraintCallback m.kind.params m
        (s.setMonitor m { monitor with sensorUserMap := monitor.sensorUserMap ++ added })

/-- `ConstraintManagerAdapter::Init`: it initialises every monitor of the list. -/
def ConstraintManagerAdapter.initModule (m : Modules) : Bool × Modules :=
  let service := { m.standby.service with constraintManager.hasStateManager := a.stateManager }
  if ¬ a.stateManager then (false, m.setService service)
  else
    let generation := service.constraintManager.generation + 1
    let service := { service with constraintManager.generation := generation }
    let monitors := if cfg.detectMotion then
        [⟨.charge, generation⟩, ⟨.motion, generation⟩, ⟨.repeatedMotion, generation⟩]
      else [⟨.charge, generation⟩]
    let constraintMonitorList := m.constraintMonitorList ++ monitors
    (true, { m with constraintMonitorList := constraintMonitorList }.setService
      (constraintMonitorList.foldl (Monitor.initAgain a.platform) service))

/-- `ListenerManagerAdapter::Init`. -/
def ListenerManagerAdapter.init (m : Modules) : Bool × Modules :=
  if a.mode ≠ .phoneMode ∧ a.mode ≠ .tabletMode ∧ a.mode ≠ .unknown then (false, m)
  else
    let m := if ucfg.multimodalInput then
        { m with messageListenerList := m.messageListenerList ++ [.inputManager] }
      else m
    let id := scfg.backgroundTaskManagerServiceId
    let m := if ucfg.backgroundTaskMgr ∧ m.listenerPluginMap.lookup id = none then
        { m with listenerPluginMap := m.listenerPluginMap ++ [(id, .backgroundTask)] }
      else m
    (true, m)

/-- `ListenerManagerAdapter::StartListener`, which always returns `ERR_OK`. -/
def ListenerManagerAdapter.startListener (m : Modules) : Bool × Modules :=
  (true, { m with started := m.started ++ m.messageListenerList })

/-- The steps of `InitReadyState` one after another, up to the first that fails. -/
def initSteps : List (Modules → Bool × Modules) → Modules → Bool × Modules
  | [], m => (true, m)
  | step :: steps, m =>
    match step m with
    | (false, m) => (false, m)
    | (true, m) => initSteps steps m

/-- The task of `StandbyServiceImpl::InitReadyState`. -/
def Modules.initReadyState (m : Modules) : Modules :=
  if m.standby.service.isServiceReady then m
  else
    match initSteps [StateManagerAdapter.initModule cfg ucfg a,
        StrategyManagerAdapter.initModule scfg a, ConstraintManagerAdapter.initModule cfg a,
        ListenerManagerAdapter.init scfg ucfg a, ListenerManagerAdapter.startListener] m with
    | (false, m) => m
    | (true, m) => m.setService { m.standby.service with isServiceReady := true }

/-- Attempts one after another, from the start of the process. -/
def startup (attempts : List Attempt) : Modules :=
  attempts.foldl (fun m a => m.initReadyState cfg scfg ucfg a) {}

/-! ## What an attempt needs -/

/-- The timers that the state objects create, in the order of `indexToState_`. -/
def stateTimers : List CreatedTimer :=
  [.enterStandby .dark, .enterStandby .nap, .enterStandby .maintenance, .enterStandby .sleep] ++
    if cfg.detectMotion then [.repeatedDetection] else []

/-- No step of the attempt fails. -/
def Attempt.Succeeds : Prop :=
  (∀ timer ∈ stateTimers cfg, a.createTimer timer = true) ∧ a.configManager = true ∧
    a.stateManager = true ∧ (a.mode = .phoneMode ∨ a.mode = .tabletMode ∨ a.mode = .unknown)

/-- The attempt fails at the timer of DARK, the first that a state object creates, and has not
created the half-hour timer before. -/
def Attempt.FailsAtOnce : Prop :=
  (ucfg.realtimeTimer = true ∨ a.createTimer .scrOffHalfHour = false) ∧
    a.createTimer (.enterStandby .dark) = false

end

/-- No module is left initialised. -/
structure Uninitialised (m : Modules) : Prop where
  timers : m.timers = []
  armed : ∀ callback, ¬ m.standby.service.timeService.Started callback
  checkScreenStatus : .checkScreenStatus ∉ m.standby.service.handler.tasks
  strategyList : m.standby.strategyList = []
  constraintMonitorList : m.constraintMonitorList = []
  messageListenerList : m.messageListenerList = []

section
variable {cfg : StandbyConfig} {scfg : StrategyConfig} {ucfg : StartupConfig} {a : Attempt}
  {m : Modules}

/-! ## The timers -/

/-- Create timers up to the first that is not created. -/
def createTimers (a : Attempt) (timers : List CreatedTimer) (m : Modules) : Bool × Modules :=
  (timers.all a.createTimer, { m with timers := m.timers ++ timers.takeWhile a.createTimer })

/-- Without timers there is nothing to create. -/
theorem createTimers_nil : createTimers a [] m = (true, m) := by
  simp [createTimers]

/-- The timers are created in their order up to the first that fails. -/
theorem createTimers_cons (timer : CreatedTimer) (timers : List CreatedTimer) :
    createTimers a (timer :: timers) m =
      match createTimer a timer m with
      | (false, m) => (false, m)
      | (true, m) => createTimers a timers m := by
  unfold createTimer
  cases h : a.createTimer timer <;> simp [createTimers, h]

/-- A state object with one timer, before others. -/
theorem initStates_cons {state : StandbyState} {states : List StandbyState}
    {timers : List CreatedTimer}
    (hstate : ∀ m, initState cfg a state m = createTimer a (.enterStandby state) m)
    (h : ∀ m, initStates cfg a states m = createTimers a timers m) (m : Modules) :
    initStates cfg a (state :: states) m = createTimers a (.enterStandby state :: timers) m := by
  rw [createTimers_cons]
  simp only [initStates, hstate, h]

/-- SLEEP is the last state object. -/
theorem initStates_sleep (cfg : StandbyConfig) (a : Attempt) (m : Modules) :
    initStates cfg a [.sleep] m = createTimers a
      (.enterStandby .sleep :: if cfg.detectMotion then [.repeatedDetection] else []) m := by
  rw [createTimers_cons]
  simp only [initStates, initState, SleepState.init]
  cases createTimer a (.enterStandby .sleep) m with
  | mk created m =>
    cases created with
    | false => rfl
    | true =>
      cases cfg.detectMotion with
      | false => simp [createTimers_nil]
      | true =>
        simp only [not_true_eq_false, if_false, if_true, createTimers_cons, createTimers_nil]

/-- The state objects create their timers one after another. -/
theorem initStates_eq (cfg : StandbyConfig) (a : Attempt) (m : Modules) :
    initStates cfg a [.working, .dark, .nap, .maintenance, .sleep] m =
      createTimers a (stateTimers cfg) m :=
  initStates_cons (fun _ => rfl) (initStates_cons (fun _ => rfl)
    (initStates_cons (fun _ => rfl) (initStates_sleep cfg a))) m

/-- The timers that an attempt creates. -/
def Attempt.createdTimers (cfg : StandbyConfig) (ucfg : StartupConfig) (a : Attempt) :
    List CreatedTimer :=
  (if ucfg.realtimeTimer then [] else [.scrOffHalfHour].filter a.createTimer) ++
    (stateTimers cfg).takeWhile a.createTimer

/-! ## The steps -/

/-- What every step keeps is kept by the steps up to the first that fails. -/
theorem initSteps_invariant {I : Modules → Prop} {steps : List (Modules → Bool × Modules)}
    (h : ∀ step ∈ steps, ∀ m, I m → I (step m).2) (hm : I m) : I (initSteps steps m).2 := by
  induction steps generalizing m with
  | nil => exact hm
  | cons step steps ih =>
    have hstep := h step List.mem_cons_self m hm
    unfold initSteps
    split
    · rename_i heq
      rw [heq] at hstep
      exact hstep
    · rename_i heq
      rw [heq] at hstep
      exact ih (fun other hother => h other (List.mem_cons_of_mem _ hother)) hstep

/-- The steps succeed together when each succeeds, whatever it starts from. -/
theorem initSteps_fst {steps : List (Modules → Bool × Modules)} (results : List Bool)
    (h : List.Forall₂ (fun step result => ∀ m, (step m).1 = result) steps results)
    (m : Modules) : (initSteps steps m).1 = results.all id := by
  induction h generalizing m with
  | nil => rfl
  | @cons step result steps results hstep _ ih =>
    have hresult := hstep m
    unfold initSteps
    split
    · rename_i heq
      rw [heq] at hresult
      simp [← hresult]
    · rename_i heq
      rw [heq] at hresult
      simp [← hresult, ih]

/-- The state manager's `Init` creates timers, and begins WORKING when every state object has its
own. -/
theorem StateManagerAdapter.initModule_eq (cfg : StandbyConfig) (ucfg : StartupConfig)
    (a : Attempt) (m : Modules) :
    StateManagerAdapter.initModule cfg ucfg a m =
      ((stateTimers cfg).all a.createTimer,
        { m.setService (if (stateTimers cfg).all a.createTimer then
              StateManagerAdapter.beginWorking cfg a
                (StateManagerAdapter.createStates m.standby.service)
            else StateManagerAdapter.createStates m.standby.service) with
          timers := m.timers ++ a.createdTimers cfg ucfg }) := by
  have hhalf : (if ucfg.realtimeTimer then
        m.setService (StateManagerAdapter.createStates m.standby.service)
      else (createTimer a .scrOffHalfHour
        (m.setService (StateManagerAdapter.createStates m.standby.service))).2) =
      { m.setService (StateManagerAdapter.createStates m.standby.service) with
        timers := m.timers ++
          if ucfg.realtimeTimer then [] else [.scrOffHalfHour].filter a.createTimer } := by
    cases ucfg.realtimeTimer with
    | true => simp [Modules.setService]
    | false =>
      cases hcreate : a.createTimer .scrOffHalfHour <;>
        simp [createTimer, hcreate, Modules.setService]
  simp only [StateManagerAdapter.initModule, hhalf, initStates_eq, createTimers,
    Attempt.createdTimers]
  cases (stateTimers cfg).all a.createTimer <;> simp [Modules.setService]

/-- What the other modules leave alone. -/
structure Besides (m m' : Modules) : Prop where
  timers : m'.timers = m.timers
  isServiceReady : m'.standby.service.isServiceReady = m.standby.service.isServiceReady

/-- The strategy manager leaves timers and readiness alone. -/
theorem StrategyManagerAdapter.initModule_besides (scfg : StrategyConfig) (a : Attempt)
    (m : Modules) : Besides m (StrategyManagerAdapter.initModule scfg a m).2 := by
  obtain ⟨_, _, hflush⟩ := flush_frame (StrategyManagerAdapter.init scfg m.standby)
  unfold StrategyManagerAdapter.initModule
  split_ifs
  · refine ⟨rfl, ?_⟩
    rw [hflush, init_service]
  · exact ⟨rfl, rfl⟩

/-- A callback that is registered does not make the service ready. -/
theorem registerConstraintCallback_isServiceReady (params : ConstraintEvalParam) (m : Monitor)
    (s : Service) :
    (registerConstraintCallback params m s).isServiceReady = s.isServiceReady := by
  unfold registerConstraintCallback
  split_ifs <;> rfl

/-- Nor does a monitor that is initialised. -/
theorem Monitor.initAgain_isServiceReady (p : Platform) (s : Service) (m : Monitor) :
    (Monitor.initAgain p s m).isServiceReady = s.isServiceReady := by
  unfold Monitor.initAgain
  split
  · exact registerConstraintCallback_isServiceReady _ m s
  all_goals
    split_ifs
    · rfl
    · exact registerConstraintCallback_isServiceReady _ m _

/-- So does the constraint manager. -/
theorem ConstraintManagerAdapter.initModule_besides (cfg : StandbyConfig) (a : Attempt)
    (m : Modules) : Besides m (ConstraintManagerAdapter.initModule cfg a m).2 := by
  simp only [ConstraintManagerAdapter.initModule]
  split_ifs
  all_goals
    refine ⟨rfl, ?_⟩
    first
    | rfl
    | exact List.foldlRecOn (motive := fun s : Service =>
        s.isServiceReady = m.standby.service.isServiceReady) _ _ rfl
        fun s hs monitor _ => (Monitor.initAgain_isServiceReady _ s monitor).trans hs

/-- So does the listener manager. -/
theorem ListenerManagerAdapter.init_besides (scfg : StrategyConfig) (ucfg : StartupConfig)
    (a : Attempt) (m : Modules) : Besides m (ListenerManagerAdapter.init scfg ucfg a m).2 := by
  simp only [ListenerManagerAdapter.init]
  split_ifs <;> exact ⟨rfl, rfl⟩

/-- Nothing has been touched. -/
theorem Besides.refl (m : Modules) : Besides m m := ⟨rfl, rfl⟩

/-- Neither part has touched them. -/
theorem Besides.trans {m' m'' : Modules} (h : Besides m m') (h' : Besides m' m'') :
    Besides m m'' :=
  ⟨h'.timers.trans h.timers, h'.isServiceReady.trans h.isServiceReady⟩

/-- The steps after the state manager. -/
def laterSteps (cfg : StandbyConfig) (scfg : StrategyConfig) (ucfg : StartupConfig) (a : Attempt) :
    List (Modules → Bool × Modules) :=
  [StrategyManagerAdapter.initModule scfg a, ConstraintManagerAdapter.initModule cfg a,
    ListenerManagerAdapter.init scfg ucfg a, ListenerManagerAdapter.startListener]

/-- The steps after the state manager leave timers and readiness alone. -/
theorem laterSteps_besides (cfg : StandbyConfig) (scfg : StrategyConfig) (ucfg : StartupConfig)
    (a : Attempt) (m : Modules) : Besides m (initSteps (laterSteps cfg scfg ucfg a) m).2 := by
  refine initSteps_invariant (I := Besides m) (fun step hstep m' h => h.trans ?_) (.refl m)
  simp only [laterSteps, List.mem_cons, List.not_mem_nil, or_false] at hstep
  rcases hstep with rfl | rfl | rfl | rfl
  · exact StrategyManagerAdapter.initModule_besides scfg a m'
  · exact ConstraintManagerAdapter.initModule_besides cfg a m'
  · exact ListenerManagerAdapter.init_besides scfg ucfg a m'
  · exact ⟨rfl, rfl⟩

/-- They succeed or fail whatever they start from. -/
theorem laterSteps_fst (cfg : StandbyConfig) (scfg : StrategyConfig) (ucfg : StartupConfig)
    (a : Attempt) (m : Modules) :
    (initSteps (laterSteps cfg scfg ucfg a) m).1 = true ↔
      a.configManager = true ∧ a.stateManager = true ∧
        (a.mode = .phoneMode ∨ a.mode = .tabletMode ∨ a.mode = .unknown) := by
  rw [initSteps_fst [a.configManager, a.stateManager,
    decide (a.mode = .phoneMode ∨ a.mode = .tabletMode ∨ a.mode = .unknown), true]]
  · simp
  · refine .cons (fun m => ?_) (.cons (fun m => ?_) (.cons (fun m => ?_) ?_))
    · unfold StrategyManagerAdapter.initModule
      cases a.configManager <;> rfl
    · simp only [ConstraintManagerAdapter.initModule]
      cases a.stateManager <;> rfl
    · simp only [ListenerManagerAdapter.init]
      cases a.mode <;> rfl
    · exact .cons (fun m => rfl) .nil

/-! ## An attempt -/

/-- An attempt of a service that is not ready: the state manager first, then the later steps. -/
theorem initReadyState_attempt (cfg : StandbyConfig) (scfg : StrategyConfig)
    (ucfg : StartupConfig) (a : Attempt) (hready : m.standby.service.isServiceReady = false) :
    m.initReadyState cfg scfg ucfg a =
      if (stateTimers cfg).all a.createTimer then
        match initSteps (laterSteps cfg scfg ucfg a)
          (StateManagerAdapter.initModule cfg ucfg a m).2 with
        | (false, m) => m
        | (true, m) => m.setService { m.standby.service with isServiceReady := true }
      else (StateManagerAdapter.initModule cfg ucfg a m).2 := by
  rw [Modules.initReadyState, if_neg (by rw [hready]; decide), initSteps,
    StateManagerAdapter.initModule_eq]
  cases (stateTimers cfg).all a.createTimer <;> rfl

/-- It makes the service ready when no step fails, and the timers it creates stay. -/
theorem initReadyState_spec (cfg : StandbyConfig) (scfg : StrategyConfig) (ucfg : StartupConfig)
    (a : Attempt) (hready : m.standby.service.isServiceReady = false) :
    ((m.initReadyState cfg scfg ucfg a).standby.service.isServiceReady = true ↔ a.Succeeds cfg) ∧
      (m.initReadyState cfg scfg ucfg a).timers = m.timers ++ a.createdTimers cfg ucfg := by
  have hstates : (StateManagerAdapter.initModule cfg ucfg a m).2.standby.service.isServiceReady =
      false := by
    rw [StateManagerAdapter.initModule_eq]
    cases (stateTimers cfg).all a.createTimer with
    | false => exact hready
    | true =>
      simp [Modules.setService, StateManagerAdapter.beginWorking, beginState,
        WorkingState.beginState, Service.postTask, sendNotification, Service.dispatchEvent,
        StateManagerAdapter.createStates, hready]
  have htimers : (StateManagerAdapter.initModule cfg ucfg a m).2.timers =
      m.timers ++ a.createdTimers cfg ucfg := by
    rw [StateManagerAdapter.initModule_eq]
  have hbesides :=
    laterSteps_besides cfg scfg ucfg a (StateManagerAdapter.initModule cfg ucfg a m).2
  have hfst := laterSteps_fst cfg scfg ucfg a (StateManagerAdapter.initModule cfg ucfg a m).2
  rw [initReadyState_attempt cfg scfg ucfg a hready, Attempt.Succeeds, ← List.all_eq_true, ← hfst]
  cases hall : (stateTimers cfg).all a.createTimer with
  | false => exact ⟨by simp [hstates], htimers⟩
  | true =>
    simp only [if_true, true_and]
    split
    · rename_i m' heq
      rw [heq] at hbesides ⊢
      have hstill : m'.standby.service.isServiceReady = false :=
        hbesides.isServiceReady.trans hstates
      exact ⟨by simp [hstill], hbesides.timers.trans htimers⟩
    · rename_i heq
      rw [heq] at hbesides ⊢
      exact ⟨by simp [Modules.setService], hbesides.timers.trans htimers⟩

/-- A service that is ready is not initialised again. -/
theorem initReadyState_ready (hready : m.standby.service.isServiceReady = true) :
    m.initReadyState cfg scfg ucfg a = m := by
  rw [Modules.initReadyState, if_pos hready]

/-- An attempt creates no timer when it fails at once. -/
theorem createdTimers_eq_nil_iff :
    a.createdTimers cfg ucfg = [] ↔ a.FailsAtOnce ucfg := by
  simp only [Attempt.createdTimers, stateTimers, List.append_eq_nil_iff, Attempt.FailsAtOnce,
    List.cons_append, List.takeWhile_cons]
  refine and_congr ?_ ?_
  · cases ucfg.realtimeTimer <;> simp
  · cases a.createTimer (.enterStandby .dark) <;> simp

/-- An attempt that fails at once leaves new state objects without timers. -/
theorem Attempt.FailsAtOnce.initReadyState (cfg : StandbyConfig) (scfg : StrategyConfig)
    (h : a.FailsAtOnce ucfg) (hready : m.standby.service.isServiceReady = false) :
    m.initReadyState cfg scfg ucfg a =
      m.setService (StateManagerAdapter.createStates m.standby.service) := by
  have hall : (stateTimers cfg).all a.createTimer = false := by
    simp [stateTimers, h.2]
  have hcreated : a.createdTimers cfg ucfg = [] := createdTimers_eq_nil_iff.2 h
  rw [initReadyState_attempt cfg scfg ucfg a hready, StateManagerAdapter.initModule_eq, hall,
    hcreated]
  simp [Modules.setService]

/-! ## The start that succeeds -/

/-- A monitor that registers for the first time, under a parameter that is free. -/
theorem Monitor.initAgain_of_fresh (p : Platform) {s : Service} {m : Monitor}
    (hmonitor : s.monitors m = {})
    (hfree : s.constraintManager.constraintMap.lookup m.kind.params.getHashValue = none) :
    Monitor.initAgain p s m = Monitor.init p m m.kind.params s := by
  have hregister : ∀ monitors, registerConstraintCallback m.kind.params m
      { s with monitors := monitors } =
      { s with
        monitors := monitors
        constraintManager.constraintMap :=
          s.constraintManager.constraintMap ++ [(m.kind.params.getHashValue, m)] } :=
    fun _ => if_neg (by rw [hfree]; decide)
  obtain ⟨kind, generation⟩ := m
  cases kind with
  | charge => exact hregister s.monitors
  | motion | repeatedMotion =>
    simp only [Monitor.initAgain, Monitor.init]
    split_ifs
    · rfl
    · simp only [Service.setMonitor, hmonitor, hregister, List.nil_append, List.not_mem_nil,
        not_false_eq_true, decide_true, List.filter_true]

/-- What `Init` of a monitor leaves for those after it. -/
theorem Monitor.init_spares (p : Platform) {s : Service} (m other : Monitor)
    (params free : ConstraintEvalParam) (hne : other ≠ m)
    (hhash : (free.getHashValue == params.getHashValue) = false)
    (hmonitor : s.monitors other = {})
    (hfree : s.constraintManager.constraintMap.lookup free.getHashValue = none) :
    (Monitor.init p m params s).monitors other = {} ∧
      (Monitor.init p m params s).constraintManager.constraintMap.lookup free.getHashValue =
        none := by
  have hlookup : (s.constraintManager.constraintMap ++ [(params.getHashValue, m)]).lookup
      free.getHashValue = none := by
    rw [List.lookup_append, hfree, Option.none_or, List.lookup_cons, hhash]
    rfl
  obtain ⟨kind, generation⟩ := m
  cases kind with
  | charge => exact ⟨hmonitor, hlookup⟩
  | motion | repeatedMotion =>
    simp only [Monitor.init]
    split_ifs
    · exact ⟨hmonitor, hfree⟩
    · refine ⟨?_, hlookup⟩
      simp only [Service.setMonitor]
      rw [Function.update_of_ne hne]
      exact hmonitor

/-- The monitors of a first attempt register one after another, each under its own parameter. -/
theorem foldl_initAgain_of_fresh (p : Platform) {s : Service} (generation : Nat)
    (hmap : s.constraintManager.constraintMap = [])
    (hmonitors : ∀ kind, s.monitors ⟨kind, generation⟩ = {}) :
    Monitor.initAgain p s ⟨.charge, generation⟩ =
        Monitor.init p ⟨.charge, generation⟩ chargeParams s ∧
      [⟨.charge, generation⟩, ⟨.motion, generation⟩, ⟨.repeatedMotion, generation⟩].foldl
          (Monitor.initAgain p) s =
        Monitor.init p ⟨.repeatedMotion, generation⟩ repeatedMotionParams
          (Monitor.init p ⟨.motion, generation⟩ motionDetectParams
            (Monitor.init p ⟨.charge, generation⟩ chargeParams s)) := by
  have hfree : ∀ params : ConstraintEvalParam,
      s.constraintManager.constraintMap.lookup params.getHashValue = none := fun params => by
    rw [hmap]
    rfl
  have hfirst : Monitor.initAgain p s ⟨.charge, generation⟩ =
      Monitor.init p ⟨.charge, generation⟩ chargeParams s :=
    Monitor.initAgain_of_fresh p (hmonitors .charge) (hfree _)
  obtain ⟨hmotion, hmotionFree⟩ := Monitor.init_spares p ⟨.charge, generation⟩
    ⟨.motion, generation⟩ chargeParams motionDetectParams (by simp) (by decide) (hmonitors _)
    (hfree _)
  obtain ⟨hrepeated, hrepeatedFree⟩ := Monitor.init_spares p ⟨.charge, generation⟩
    ⟨.repeatedMotion, generation⟩ chargeParams repeatedMotionParams (by simp) (by decide)
    (hmonitors _) (hfree _)
  obtain ⟨hrepeated, hrepeatedFree⟩ := Monitor.init_spares p ⟨.motion, generation⟩
    ⟨.repeatedMotion, generation⟩ motionDetectParams repeatedMotionParams (by simp) (by decide)
    hrepeated hrepeatedFree
  have hsecond : Monitor.initAgain p (Monitor.init p ⟨.charge, generation⟩ chargeParams s)
      ⟨.motion, generation⟩ = Monitor.init p ⟨.motion, generation⟩ motionDetectParams
        (Monitor.init p ⟨.charge, generation⟩ chargeParams s) :=
    Monitor.initAgain_of_fresh p hmotion hmotionFree
  refine ⟨hfirst, ?_⟩
  rw [List.foldl_cons, hfirst, List.foldl_cons, hsecond, List.foldl_cons, List.foldl_nil]
  exact Monitor.initAgain_of_fresh p hrepeated hrepeatedFree

/-- Nothing has been registered with the constraint manager: no monitor, and none of the monitors
that its next `Init` creates has sensors yet. -/
structure Unmonitored (m : Modules) : Prop where
  constraintMonitorList : m.constraintMonitorList = []
  constraintMap : m.standby.service.constraintManager.constraintMap = []
  monitors : ∀ kind, m.standby.service.monitors
    ⟨kind, m.standby.service.constraintManager.generation + 1⟩ = {}

/-- The constraint manager of a first attempt is the one of `ConstraintManagerAdapter.init`. -/
theorem ConstraintManagerAdapter.initModule_of_unmonitored (cfg : StandbyConfig)
    (h : Unmonitored m) (ha : a.stateManager = true) :
    ∃ m', ConstraintManagerAdapter.initModule cfg a m = (true, m') ∧
      m'.standby = { m.standby with
        service := ConstraintManagerAdapter.init cfg a.platform m.standby.service } := by
  obtain ⟨hcharge, hall⟩ := foldl_initAgain_of_fresh a.platform
    (s := { m.standby.service with
      constraintManager.hasStateManager := true
      constraintManager.generation := m.standby.service.constraintManager.generation + 1 })
    (m.standby.service.constraintManager.generation + 1) h.constraintMap h.monitors
  simp only [ConstraintManagerAdapter.initModule, ha, not_true_eq_false, if_false,
    h.constraintMonitorList, List.nil_append, Modules.setService, ConstraintManagerAdapter.init]
  refine ⟨_, rfl, ?_⟩
  cases cfg.detectMotion with
  | true =>
    simp only [if_true]
    rw [hall]
  | false =>
    simp only [Bool.false_eq_true, if_false, List.foldl_cons, List.foldl_nil]
    rw [hcharge]

/-- Creating the strategies does not depend on the service. -/
theorem init_setService (scfg : StrategyConfig) (s : Standby) (service : Service) :
    StrategyManagerAdapter.init scfg { s with service := service } =
      { StrategyManagerAdapter.init scfg s with service := service } := by
  unfold StrategyManagerAdapter.init
  dsimp only
  rw [Standby.forEach_eq, Standby.forEach_eq]

/-- The later steps of a first attempt that succeeds. -/
theorem laterSteps_standby (cfg : StandbyConfig) (scfg : StrategyConfig) (ucfg : StartupConfig)
    (ha : a.Succeeds cfg) (hready : m.standby.service.isServiceReady = false)
    (h : Unmonitored m) : ∃ m', initSteps (laterSteps cfg scfg ucfg a) m = (true, m') ∧
      m'.standby = { StrategyManagerAdapter.init scfg m.standby with
        service := ConstraintManagerAdapter.init cfg a.platform m.standby.service
        network.posted := [] } := by
  obtain ⟨-, hconfig, hstate, hmode⟩ := ha
  have hflush := flush_of_not_ready (s := StrategyManagerAdapter.init scfg m.standby)
    (by rw [init_service]; exact hready)
  have hstrategy : StrategyManagerAdapter.initModule scfg a m = (true, { m with
      standby := { StrategyManagerAdapter.init scfg m.standby with network.posted := [] } }) := by
    rw [StrategyManagerAdapter.initModule, if_neg (by rw [hconfig]; decide), hflush]
  obtain ⟨m₂, hconstraint, hstandby⟩ := ConstraintManagerAdapter.initModule_of_unmonitored cfg
    (m := { m with
      standby := { StrategyManagerAdapter.init scfg m.standby with network.posted := [] } })
    ⟨h.constraintMonitorList, by rw [init_service]; exact h.constraintMap,
      by rw [init_service]; exact h.monitors⟩ hstate
  have hlistener : ∃ m₃, ListenerManagerAdapter.init scfg ucfg a m₂ = (true, m₃) ∧
      m₃.standby = m₂.standby := by
    simp only [ListenerManagerAdapter.init]
    rw [if_neg (by rcases hmode with hmode | hmode | hmode <;> simp [hmode])]
    refine ⟨_, rfl, ?_⟩
    split_ifs <;> rfl
  obtain ⟨m₃, hlistener, hsame⟩ := hlistener
  refine ⟨{ m₃ with started := m₃.started ++ m₃.messageListenerList }, ?_, ?_⟩
  · simp only [initSteps, laterSteps, hstrategy, hconstraint, hlistener,
      ListenerManagerAdapter.startListener]
  · show m₃.standby = _
    rw [hsame, hstandby, init_service]

/-- An attempt that succeeds with no monitor registered starts the service as
`Standby.initReadyState` has it. -/
theorem initReadyState_standby (scfg : StrategyConfig) (ucfg : StartupConfig)
    (ha : a.Succeeds cfg) (hready : m.standby.service.isServiceReady = false)
    (h : Unmonitored m) :
    (m.initReadyState cfg scfg ucfg a).standby =
      m.standby.initReadyState cfg scfg a.platform := by
  have hall : (stateTimers cfg).all a.createTimer = true := List.all_eq_true.2 ha.1
  have hbegin : StateManagerAdapter.beginWorking cfg a
      (StateManagerAdapter.createStates m.standby.service) =
      StateManagerAdapter.init cfg a.platform m.standby.service := rfl
  have hstate := StateManagerAdapter.init_eq cfg a.platform hready
  obtain ⟨m', hlater, hstandby⟩ := laterSteps_standby cfg scfg ucfg
    (m := (StateManagerAdapter.initModule cfg ucfg a m).2) ha
    (by
      rw [StateManagerAdapter.initModule_eq, hall, if_pos rfl, hbegin, hstate]
      exact hready)
    (by
      rw [StateManagerAdapter.initModule_eq, hall, if_pos rfl, hbegin, hstate]
      exact ⟨h.constraintMonitorList, h.constraintMap, h.monitors⟩)
  rw [initReadyState_attempt cfg scfg ucfg a hready, hall, if_pos rfl, hlater,
    initReadyState_of_not_ready cfg scfg a.platform hready, initReadyState_eq cfg _ hready]
  simp only [Modules.setService, hstandby, StateManagerAdapter.initModule_eq, hall, if_true,
    hbegin, init_setService]

/-! ## Attempts one after another -/

/-- The last attempt starts from what the others have left. -/
theorem startup_concat (attempts : List Attempt) :
    startup cfg scfg ucfg (attempts ++ [a]) =
      (startup cfg scfg ucfg attempts).initReadyState cfg scfg ucfg a := by
  rw [startup, List.foldl_append]
  rfl

/-- The service is ready once an attempt has succeeded. -/
theorem startup_ready_iff (attempts : List Attempt) :
    (startup cfg scfg ucfg attempts).standby.service.isServiceReady = true ↔
      ∃ a ∈ attempts, a.Succeeds cfg := by
  induction attempts using List.reverseRecOn with
  | nil => simp [startup]
  | append_singleton attempts a ih =>
    rw [startup_concat]
    simp only [List.mem_append, List.mem_singleton, or_and_right, exists_or, exists_eq_left, ← ih]
    cases hready : (startup cfg scfg ucfg attempts).standby.service.isServiceReady with
    | true =>
      rw [initReadyState_ready hready]
      simp [hready]
    | false =>
      rw [(initReadyState_spec cfg scfg ucfg a hready).1]
      simp

/-- Attempts that all fail at once leave no more than new state objects. -/
theorem startup_failing (attempts : List Attempt) (h : ∀ a ∈ attempts, a.FailsAtOnce ucfg) :
    startup cfg scfg ucfg attempts = {} ∨
      startup cfg scfg ucfg attempts =
        Modules.setService (StateManagerAdapter.createStates {}) {} := by
  induction attempts using List.reverseRecOn with
  | nil => exact .inl rfl
  | append_singleton attempts a ih =>
    have hlast := h a (List.mem_append_right _ (List.mem_singleton_self a))
    rw [startup_concat]
    right
    rcases ih fun b hb => h b (List.mem_append_left _ hb) with heq | heq <;>
      rw [heq, hlast.initReadyState cfg scfg rfl]
    rfl

/-- What an attempt that fails at once leaves is not initialised. -/
theorem uninitialised_of_failing
    (h : m = {} ∨ m = Modules.setService (StateManagerAdapter.createStates {}) {}) :
    Uninitialised m := by
  have harmed : ∀ callback, ¬ ({} : TimeService).Started callback := fun callback => by
    cases callback <;> simp [TimeService.Started]
  rcases h with rfl | rfl <;> exact ⟨rfl, harmed, List.not_mem_nil, rfl, rfl, rfl⟩

/-- Then the next attempt does what the first would have done. -/
theorem initReadyState_of_failing (cfg : StandbyConfig) (scfg : StrategyConfig)
    (ucfg : StartupConfig) (a : Attempt)
    (h : m = {} ∨ m = Modules.setService (StateManagerAdapter.createStates {}) {}) :
    m.initReadyState cfg scfg ucfg a = startup cfg scfg ucfg [a] := by
  rcases h with rfl | rfl
  · rfl
  · have hfirst : StateManagerAdapter.initModule cfg ucfg a
        (Modules.setService (StateManagerAdapter.createStates {}) {}) =
        StateManagerAdapter.initModule cfg ucfg a {} := rfl
    show _ = Modules.initReadyState cfg scfg ucfg a {}
    rw [initReadyState_attempt cfg scfg ucfg a rfl, hfirst,
      initReadyState_attempt cfg scfg ucfg a rfl]

/-- A first attempt that succeeds starts the service of a new process. -/
theorem startup_first (scfg : StrategyConfig) (ucfg : StartupConfig) (ha : a.Succeeds cfg) :
    (startup cfg scfg ucfg [a]).standby =
      ({} : Standby).initReadyState cfg scfg a.platform := by
  have hnothing : Unmonitored {} := ⟨rfl, rfl, fun _ => rfl⟩
  exact initReadyState_standby scfg ucfg ha rfl hnothing

end

/-- After every attempt that leaves the service not ready, no module is left initialised, and an
attempt that makes it ready leaves what it would have left as the first. -/
structure StartsCleanly (cfg : StandbyConfig) (scfg : StrategyConfig) (ucfg : StartupConfig)
    (attempts : List Attempt) : Prop where
  failed : ∀ earlier, earlier <+: attempts →
    (startup cfg scfg ucfg earlier).standby.service.isServiceReady = false →
      Uninitialised (startup cfg scfg ucfg earlier)
  retried : ∀ earlier a, earlier ++ [a] <+: attempts →
    (startup cfg scfg ucfg earlier).standby.service.isServiceReady = false →
      (startup cfg scfg ucfg (earlier ++ [a])).standby.service.isServiceReady = true →
        startup cfg scfg ucfg (earlier ++ [a]) = startup cfg scfg ucfg [a]

/-- For any attempts, whichever step of each fails: failed attempts leave nothing and do not matter
to a later success if and only if every attempt up to the first success fails, if it fails, before
it has created a timer. -/
theorem startup_iff (cfg : StandbyConfig) (scfg : StrategyConfig) (ucfg : StartupConfig)
    (attempts : List Attempt) :
    StartsCleanly cfg scfg ucfg attempts ↔
      ∀ earlier a later, attempts = earlier ++ a :: later → (∀ b ∈ earlier, ¬ b.Succeeds cfg) →
        ¬ a.Succeeds cfg → a.FailsAtOnce ucfg := by
  constructor
  · intro h earlier a later heq hearlier ha
    have hnot : (startup cfg scfg ucfg earlier).standby.service.isServiceReady = false := by
      rw [Bool.eq_false_iff, ne_eq, startup_ready_iff]
      simpa using hearlier
    obtain ⟨hready, htimers⟩ := initReadyState_spec cfg scfg ucfg a hnot
    rw [← startup_concat] at hready htimers
    have hleft := h.failed (earlier ++ [a]) ⟨later, by rw [heq]; simp⟩
      (Bool.eq_false_iff.2 fun hset => ha (hready.1 hset))
    rw [hleft.timers] at htimers
    exact createdTimers_eq_nil_iff.1 (List.append_eq_nil_iff.1 htimers.symm).2
  · intro h
    have hfailing : ∀ earlier, earlier <+: attempts →
        (startup cfg scfg ucfg earlier).standby.service.isServiceReady = false →
          startup cfg scfg ucfg earlier = {} ∨ startup cfg scfg ucfg earlier =
            Modules.setService (StateManagerAdapter.createStates {}) {} := by
      rintro earlier ⟨rest, rfl⟩ hnot
      rw [Bool.eq_false_iff, ne_eq, startup_ready_iff, not_exists] at hnot
      refine startup_failing earlier fun a ha => ?_
      obtain ⟨before, after, rfl⟩ := List.append_of_mem ha
      refine h before a (after ++ rest) (by simp) (fun b hb hs => hnot b ⟨?_, hs⟩) fun hs =>
        hnot a ⟨ha, hs⟩
      exact List.mem_append_left _ hb
    refine ⟨fun earlier hprefix hnot => ?_, fun earlier a hprefix hnot _ => ?_⟩
    · exact uninitialised_of_failing (hfailing earlier hprefix hnot)
    · rw [startup_concat]
      exact initReadyState_of_failing cfg scfg ucfg a
        (hfailing earlier ((List.prefix_append earlier [a]).trans hprefix) hnot)

/-- Everything succeeds but the listener manager, on a watch. -/
def watchAttempt : Attempt where
  platform := samplePlatform
  createTimer _ := true
  configManager := true
  stateManager := true
  mode := .watchMode

/-- Not for any attempts: on a watch the listener manager refuses to start, and the timers of the
state objects stay. -/
theorem startup_not_always_clean : ¬ ∀ (cfg : StandbyConfig) (scfg : StrategyConfig)
    (ucfg : StartupConfig) (attempts : List Attempt), StartsCleanly cfg scfg ucfg attempts := by
  intro h
  have hclean := (h sampleConfig sampleStrategies ⟨false, true, true⟩ [watchAttempt]).failed
    [watchAttempt] (List.prefix_refl _) (by decide)
  exact absurd hclean.timers (by decide)

end DeviceStandby
