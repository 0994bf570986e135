import DeviceStandby.Lib.BitMask
import DeviceStandby.Service.TimeObserver

/-!
# The system abilities that the service depends on

The service is told when a system ability comes and goes, in any order and as often as it likes. It
keeps a mask of the seven abilities that it depends on, registers its observers with three of them,
and posts a task to initialise its modules when none is missing and one to tear them down when one
is. `ready_iff_present` says that between the tasks the service is ready only while all abilities
are there, and that it is then ready whenever every attempt to initialise the modules succeeds.
The modules come from a plugin, so their state is a type of its own.
-/

namespace DeviceStandby

open BitMask

/-- The system abilities that the service depends on. -/
inductive Dependency where
  | commonEvent | timeService | abilityMgr | bundleMgr | powerManager | appMgr | multimodalInput
  deriving DecidableEq

/-- The bit of a system ability in `dependsReady_`. -/
def Dependency.index : Dependency → Nat
  | .commonEvent => 0
  | .timeService => 1
  | .abilityMgr => 2
  | .bundleMgr => 3
  | .powerManager => 4
  | .appMgr => 5
  | .multimodalInput => 6

/-- `COMMON_EVENT_READY` and the other six. -/
def Dependency.ready (d : Dependency) : BitVec 32 :=
  BitVec.twoPow 32 d.index

/-- `ALL_DEPENDS_READY`. -/
abbrev ALL_DEPENDS_READY : BitVec 32 := 127

/-- A system ability that the service is told of. -/
inductive SystemAbility where
  | dependency (d : Dependency)
  | other (systemAbilityId : Int)
  deriving DecidableEq

/-- What the modules of the plugin do when they are called: each `Init` and `StartListener` with
whether it succeeds. -/
structure Plugin (μ : Type) where
  stateManagerInit : μ → Bool × μ
  strategyManagerInit : μ → Bool × μ
  constraintManagerInit : μ → Bool × μ
  listenerManagerInit : μ → Bool × μ
  startListener : μ → Bool × μ
  listenerManagerUnInit : μ → μ
  constraintManagerUnInit : μ → μ
  strategyManagerUnInit : μ → μ
  stateManagerUnInit : μ → μ

/-- What the platform answers when an observer is registered or unregistered. -/
structure ObserverAnswers where
  /-- The observer could be allocated. -/
  created : Bool
  subscribed : Bool
  register : RegisterAnswers
  stopTimer : Bool
  destroyTimer : Bool

/-- The tasks of `InitReadyState` and `UninitReadyState`. Both have the same priority. -/
inductive ReadyTask where
  | initReadyState
  | uninitReadyState
  deriving DecidableEq

/-- The part of `StandbyServiceImpl` that is told of system abilities. An observer is kept with
whether its subscription succeeded. -/
structure Lifecycle (μ : Type) where
  modules : μ
  dependsReady : BitVec 32 := 0
  commonEventObserver : Option Bool := none
  appStateObserver : Option Bool := none
  timeObserver : TimeObserver := {}
  tasks : List ReadyTask := []
  isServiceReady : Bool := false
  /-- The SYS_ABILITY_STATUS_CHANGED messages of `DispatchEvent`, with what they tell. -/
  messages : List (Bool × Int) := []

namespace Lifecycle
variable {μ : Type}

/-- `StandbyServiceImpl::UpdateSaDependValue`. -/
def updateSaDependValue (isAdd : Bool) (saId : BitVec 32) (s : Lifecycle μ) : Lifecycle μ :=
  { s with dependsReady :=
      if isAdd then s.dependsReady ||| saId else s.dependsReady &&& ~~~saId }

/-- What `RegisterCommEventObserver` and `RegisterAppStateObserver` do with their observer. -/
def registerObserver (a : ObserverAnswers) (observer : Option Bool) :
    ObserverErrCode × Option Bool :=
  match observer with
  | some subscribed => (.ERR_STANDBY_OBSERVER_ALREADY_EXIST, some subscribed)
  | none =>
    if ¬ a.created then (.ERR_STANDBY_OBSERVER_INIT_FAILED, none)
    -- an observer whose subscription fails is kept
    else if ¬ a.subscribed then (.ERR_STANDBY_OBSERVER_INIT_FAILED, some false)
    else (.ERR_OK, some true)

/-- `StandbyServiceImpl::RegisterCommEventObserver`. -/
def registerCommEventObserver (a : ObserverAnswers) (s : Lifecycle μ) :
    ObserverErrCode × Lifecycle μ :=
  let (err, commonEventObserver) := registerObserver a s.commonEventObserver
  (err, { s with commonEventObserver })

/-- `StandbyServiceImpl::RegisterAppStateObserver`. -/
def registerAppStateObserver (a : ObserverAnswers) (s : Lifecycle μ) :
    ObserverErrCode × Lifecycle μ :=
  let (err, appStateObserver) := registerObserver a s.appStateObserver
  (err, { s with appStateObserver })

/-- `StandbyServiceImpl::RegisterTimeObserver`. -/
def registerTimeObserver (a : RegisterAnswers) (s : Lifecycle μ) : Lifecycle μ :=
  { s with timeObserver := (s.timeObserver.registerTimeObserver a).2 }

/-- `StandbyServiceImpl::UnregisterCommEventObserver`. -/
def unregisterCommEventObserver (s : Lifecycle μ) : Lifecycle μ :=
  { s with commonEventObserver := none }

/-- `StandbyServiceImpl::UnregisterAppStateObserver`. -/
def unregisterAppStateObserver (s : Lifecycle μ) : Lifecycle μ :=
  { s with appStateObserver := none }

/-- `StandbyServiceImpl::UnregisterTimeObserver`. -/
def unregisterTimeObserver (a : ObserverAnswers) (s : Lifecycle μ) : Lifecycle μ :=
  { s with timeObserver :=
      (s.timeObserver.unregisterTimeObserver a.stopTimer a.destroyTimer).2 }

/-- `StandbyServiceImpl::InitReadyState`, which posts its task. -/
def initReadyState (s : Lifecycle μ) : Lifecycle μ :=
  { s with tasks := s.tasks ++ [.initReadyState] }

/-- `StandbyServiceImpl::UninitReadyState`, which posts its task. -/
def uninitReadyState (s : Lifecycle μ) : Lifecycle μ :=
  { s with tasks := s.tasks ++ [.uninitReadyState] }

/-- `StandbyService::NotifySystemAbilityStatusChanged`. `DispatchEvent` posts nothing while the
service is not ready. -/
def notifySystemAbilityStatusChanged (isAdded : Bool) (systemAbilityId : Int) (s : Lifecycle μ) :
    Lifecycle μ :=
  if s.isServiceReady then { s with messages := s.messages ++ [(isAdded, systemAbilityId)] } else s

/-- `StandbyService::OnAddSystemAbility`. -/
def onAddSystemAbility (systemAbility : SystemAbility) (a : ObserverAnswers) (s : Lifecycle μ) :
    Lifecycle μ :=
  let s := match systemAbility with
    | .dependency .commonEvent =>
      ((s.updateSaDependValue true Dependency.commonEvent.ready).registerCommEventObserver a).2
    | .dependency .timeService =>
      (s.updateSaDependValue true Dependency.timeService.ready).registerTimeObserver a.register
    | .dependency .appMgr =>
      ((s.updateSaDependValue true Dependency.appMgr.ready).registerAppStateObserver a).2
    | .dependency d => s.updateSaDependValue true d.ready
    | .other systemAbilityId => s.notifySystemAbilityStatusChanged true systemAbilityId
  if s.dependsReady = ALL_DEPENDS_READY then s.initReadyState else s

/-- `StandbyService::OnRemoveSystemAbility`. -/
def onRemoveSystemAbility (systemAbility : SystemAbility) (a : ObserverAnswers) (s : Lifecycle μ) :
    Lifecycle μ :=
  let s := match systemAbility with
    | .dependency .commonEvent =>
      (s.updateSaDependValue false Dependency.commonEvent.ready).unregisterCommEventObserver
    | .dependency .timeService =>
      (s.updateSaDependValue false Dependency.timeService.ready).unregisterTimeObserver a
    | .dependency .appMgr =>
      (s.updateSaDependValue false Dependency.appMgr.ready).unregisterAppStateObserver
    | .dependency d => s.updateSaDependValue false d.ready
    | .other systemAbilityId => s.notifySystemAbilityStatusChanged false systemAbilityId
  if s.dependsReady ≠ ALL_DEPENDS_READY then s.uninitReadyState else s

/-- The calls of `InitReadyState` to the modules, up to the first that fails. -/
def initModules : List (μ → Bool × μ) → μ → Bool × μ
  | [], modules => (true, modules)
  | init :: inits, modules =>
    match init modules with
    | (false, modules) => (false, modules)
    | (true, modules) => initModules inits modules

/-- The task of `InitReadyState`. -/
def runInitReadyState (plugin : Plugin μ) (a : RegisterAnswers) (s : Lifecycle μ) : Lifecycle μ :=
  if s.isServiceReady then s
  else
    match initModules [plugin.stateManagerInit, plugin.strategyManagerInit,
        plugin.constraintManagerInit, plugin.listenerManagerInit, plugin.startListener]
        s.modules with
    | (false, modules) => { s with modules }
    | (true, modules) => { { s with modules }.registerTimeObserver a with isServiceReady := true }

/-- The task of `UninitReadyState`. -/
def runUninitReadyState (plugin : Plugin μ) (s : Lifecycle μ) : Lifecycle μ :=
  if ¬ s.isServiceReady then s
  else
    { s with
      modules := plugin.stateManagerUnInit (plugin.strategyManagerUnInit
        (plugin.constraintManagerUnInit (plugin.listenerManagerUnInit s.modules)))
      isServiceReady := false }

end Lifecycle

/-- What happens: a system ability comes or goes, or the handler runs the first task. -/
inductive LifecycleAction (μ : Type) where
  | addSystemAbility (systemAbility : SystemAbility) (a : ObserverAnswers)
  | removeSystemAbility (systemAbility : SystemAbility) (a : ObserverAnswers)
  | runTask (plugin : Plugin μ) (a : RegisterAnswers)

/-- One step. -/
def Lifecycle.step {μ : Type} (s : Lifecycle μ) : LifecycleAction μ → Option (Lifecycle μ)
  | .addSystemAbility systemAbility a => some (s.onAddSystemAbility systemAbility a)
  | .removeSystemAbility systemAbility a => some (s.onRemoveSystemAbility systemAbility a)
  | .runTask plugin a =>
    match s.tasks with
    | [] => none
    | .initReadyState :: tasks => some ({ s with tasks }.runInitReadyState plugin a)
    | .uninitReadyState :: tasks => some ({ s with tasks }.runUninitReadyState plugin)

/-- The service after `Init`, before it is told of any system ability. -/
def lifecycleSystem {μ : Type} (modules : μ) : Lts.System (Lifecycle μ) (LifecycleAction μ) where
  init := { modules }
  step := Lifecycle.step

/-! ## What the service was told -/

/-- For every system ability, what the platform answered at the add notices since the ability was
last gone. An ability is there when there is one. -/
abbrev AddNotices := Dependency → List ObserverAnswers

/-- What one step adds to them. -/
def AddNotices.record {μ : Type} (notices : AddNotices) : LifecycleAction μ → AddNotices
  | .addSystemAbility (.dependency d) a => Function.update notices d (notices d ++ [a])
  | .removeSystemAbility (.dependency d) _ => Function.update notices d []
  | _ => notices

/-- The observer that the notices leave: of the first at which it could be allocated. -/
def observerOf (notices : List ObserverAnswers) : Option Bool :=
  (notices.find? (·.created)).map (·.subscribed)

/-- The service, with what it was told. -/
def noticedLifecycle {μ : Type} (modules : μ) :
    Lts.System (Lifecycle μ × AddNotices) (LifecycleAction μ) :=
  (lifecycleSystem modules).withGhost (fun _ => []) fun _ a _ notices => notices.record a

/-- Every call of an attempt to initialise the modules succeeds. -/
def LifecycleAction.Initialises {μ : Type} (s : Lifecycle μ × AddNotices) :
    LifecycleAction μ → Prop
  | .runTask plugin _ =>
    (Lifecycle.initModules [plugin.stateManagerInit, plugin.strategyManagerInit,
      plugin.constraintManagerInit, plugin.listenerManagerInit, plugin.startListener]
      s.1.modules).1 = true
  | _ => True

/-! ## The mask -/

section
variable {d d' : Dependency} {mask : BitVec 32}

/-- The bits of the dependencies lie in the mask. -/
theorem Dependency.index_lt : d.index < 7 := by
  cases d <;> decide

/-- Two dependencies have two bits. -/
theorem Dependency.index_inj (h : d.index = d'.index) : d = d' := by
  cases d <;> cases d' <;> first | rfl | exact absurd h (by decide)

/-- A place of the mask below seven is that of an ability. -/
theorem Dependency.exists_index {i : Nat} (h : i < 7) : ∃ d : Dependency, d.index = i := by
  match i, h with
  | 0, _ => exact ⟨.commonEvent, rfl⟩
  | 1, _ => exact ⟨.timeService, rfl⟩
  | 2, _ => exact ⟨.abilityMgr, rfl⟩
  | 3, _ => exact ⟨.bundleMgr, rfl⟩
  | 4, _ => exact ⟨.powerManager, rfl⟩
  | 5, _ => exact ⟨.appMgr, rfl⟩
  | 6, _ => exact ⟨.multimodalInput, rfl⟩

/-- The bit of one ability. -/
theorem Dependency.getLsbD_ready : d.ready.getLsbD d'.index = decide (d' = d) := by
  have hlt : d.index < 32 := Nat.lt_trans d.index_lt (by decide)
  rw [Dependency.ready, BitVec.getLsbD_twoPow, decide_eq_true hlt, Bool.true_and]
  exact decide_eq_decide.2 ⟨fun h => (Dependency.index_inj h).symm, fun h => h ▸ rfl⟩

/-- Telling of an ability sets its bit only. -/
theorem getLsbD_or_ready :
    (mask ||| d.ready).getLsbD d'.index = (mask.getLsbD d'.index || decide (d' = d)) := by
  rw [BitVec.getLsbD_or, Dependency.getLsbD_ready]

/-- Telling that it is gone clears its bit only. -/
theorem getLsbD_and_not_ready :
    (mask &&& ~~~d.ready).getLsbD d'.index = (mask.getLsbD d'.index && !decide (d' = d)) := by
  have hlt : d'.index < 32 := Nat.lt_trans d'.index_lt (by decide)
  rw [BitVec.getLsbD_and, BitVec.getLsbD_not, Dependency.getLsbD_ready, decide_eq_true hlt,
    Bool.true_and]

/-- The mask holds no other bit. -/
def OnlyDepends (mask : BitVec 32) : Prop := mask &&& ~~~ALL_DEPENDS_READY = 0

/-- The full mask has the bits of all dependencies. -/
theorem getLsbD_all {i : Nat} : ALL_DEPENDS_READY.getLsbD i = decide (i < 7) := by
  show (BitVec.ofNat 32 (2 ^ 7 - 1)).getLsbD i = _
  rw [BitVec.getLsbD_ofNat, Nat.testBit_two_pow_sub_one]
  by_cases hi : i < 7
  · rw [decide_eq_true hi, decide_eq_true (Nat.lt_trans hi (by decide)), Bool.true_and]
  · rw [decide_eq_false hi, Bool.and_false]

/-- The mask is full when the bits of all abilities are set. -/
theorem eq_all_iff (h : OnlyDepends mask) :
    mask = ALL_DEPENDS_READY ↔ ∀ d : Dependency, mask.getLsbD d.index = true := by
  constructor
  · rintro rfl d
    rw [getLsbD_all, decide_eq_true d.index_lt]
  · intro hbits
    refine eq_of_bits fun i hi => ?_
    rw [getLsbD_all, decide_eq_true_eq]
    constructor
    · intro hbit
      by_contra hge
      have hzero := eq_zero_iff.1 h i
      rw [BitVec.getLsbD_and, BitVec.getLsbD_not, getLsbD_all, decide_eq_false hge,
        decide_eq_true hi, hbit] at hzero
      cases hzero
    · intro hlt
      obtain ⟨d, rfl⟩ := Dependency.exists_index hlt
      exact hbits d

/-- The bit of a dependency is one of the mask. -/
theorem Dependency.onlyDepends_ready (d : Dependency) : OnlyDepends d.ready := by
  cases d <;> rfl

/-- A dependency that comes sets its bit. -/
theorem OnlyDepends.or (h : OnlyDepends mask) (d : Dependency) :
    OnlyDepends (mask ||| d.ready) := by
  have hd := d.onlyDepends_ready
  rw [OnlyDepends, eq_zero_iff] at h hd ⊢
  intro i
  have hi := h i
  have hdi := hd i
  simp only [BitVec.getLsbD_and, BitVec.getLsbD_or] at hi hdi ⊢
  rw [Bool.and_or_distrib_right, hi, hdi, Bool.or_false]

/-- A dependency that goes clears its bit. -/
theorem OnlyDepends.and_not (h : OnlyDepends mask) (d : Dependency) :
    OnlyDepends (mask &&& ~~~d.ready) := by
  rw [OnlyDepends, eq_zero_iff] at h ⊢
  intro i
  have hi := h i
  simp only [BitVec.getLsbD_and] at hi ⊢
  rw [Bool.and_right_comm, hi, Bool.false_and]

end

/-! ## What a step does -/

/-- The bits of what the service is told of. -/
def SystemAbility.bits : SystemAbility → BitVec 32
  | .dependency d => d.ready
  | .other _ => 0

/-- Whether the service is ready once the posted tasks have run and none has failed. -/
def Lifecycle.settled {μ : Type} (s : Lifecycle μ) : Bool :=
  match s.tasks.getLast? with
  | some task => task = .initReadyState
  | none => s.isServiceReady

/-- No ability is missing. -/
def AddNotices.Complete (notices : AddNotices) : Prop :=
  ∀ d, notices d ≠ []

namespace Lifecycle
variable {μ : Type} {s : Lifecycle μ} {systemAbility : SystemAbility} {a : ObserverAnswers}
  {plugin : Plugin μ} {answers : RegisterAnswers} {task : ReadyTask} {tasks : List ReadyTask}

/-- An add notice sets the bits, registers the observer and posts at most the one task. -/
theorem onAddSystemAbility_spec (systemAbility : SystemAbility) (a : ObserverAnswers)
    (s : Lifecycle μ) :
    ∃ timeObserver messages, s.onAddSystemAbility systemAbility a =
      { s with
        dependsReady := s.dependsReady ||| systemAbility.bits
        commonEventObserver :=
          if systemAbility = .dependency .commonEvent then
            (registerObserver a s.commonEventObserver).2
          else s.commonEventObserver
        appStateObserver :=
          if systemAbility = .dependency .appMgr then (registerObserver a s.appStateObserver).2
          else s.appStateObserver
        timeObserver
        messages
        tasks :=
          if s.dependsReady ||| systemAbility.bits = ALL_DEPENDS_READY then
            s.tasks ++ [.initReadyState]
          else s.tasks } := by
  refine ⟨(s.onAddSystemAbility systemAbility a).timeObserver,
    (s.onAddSystemAbility systemAbility a).messages, ?_⟩
  cases systemAbility with
  | dependency d =>
    cases d <;>
      simp only [onAddSystemAbility, updateSaDependValue, registerCommEventObserver,
        registerTimeObserver, registerAppStateObserver, initReadyState, SystemAbility.bits,
        if_true, SystemAbility.dependency.injEq, reduceCtorEq, if_false] <;>
      split_ifs with hall <;> simp only [hall, if_true, if_false]
  | other systemAbilityId =>
    simp only [onAddSystemAbility, notifySystemAbilityStatusChanged, initReadyState,
      SystemAbility.bits, BitVec.ofNat_eq_ofNat, BitVec.or_zero, reduceCtorEq, if_false]
    split_ifs with hready hall hall <;> simp only [hall]

/-- A remove notice clears the bits, takes the observer away and posts at most the one task. -/
theorem onRemoveSystemAbility_spec (systemAbility : SystemAbility) (a : ObserverAnswers)
    (s : Lifecycle μ) :
    ∃ timeObserver messages, s.onRemoveSystemAbility systemAbility a =
      { s with
        dependsReady := s.dependsReady &&& ~~~systemAbility.bits
        commonEventObserver :=
          if systemAbility = .dependency .commonEvent then none else s.commonEventObserver
        appStateObserver :=
          if systemAbility = .dependency .appMgr then none else s.appStateObserver
        timeObserver
        messages
        tasks :=
          if s.dependsReady &&& ~~~systemAbility.bits = ALL_DEPENDS_READY then s.tasks
          else s.tasks ++ [.uninitReadyState] } := by
  refine ⟨(s.onRemoveSystemAbility systemAbility a).timeObserver,
    (s.onRemoveSystemAbility systemAbility a).messages, ?_⟩
  cases systemAbility with
  | dependency d =>
    cases d <;>
      simp only [onRemoveSystemAbility, updateSaDependValue, unregisterCommEventObserver,
        unregisterTimeObserver, unregisterAppStateObserver, uninitReadyState, SystemAbility.bits,
        Bool.false_eq_true, if_true, SystemAbility.dependency.injEq, reduceCtorEq, if_false,
        ne_eq, ite_not] <;>
      split_ifs with hall <;> simp only [hall, if_true, if_false]
  | other systemAbilityId =>
    have hbits : s.dependsReady &&& ~~~(0 : BitVec 32) = s.dependsReady :=
      BitVec.and_allOnes
    simp only [onRemoveSystemAbility, notifySystemAbilityStatusChanged, uninitReadyState,
      SystemAbility.bits, hbits, reduceCtorEq, if_false, ne_eq]
    obtain ⟨_, _, _, _, _, _, _, _⟩ := s
    split_ifs <;> rfl

/-- The task of `InitReadyState` does not touch what the notices wrote, and leaves the service ready
when every call succeeds. -/
theorem runInitReadyState_spec (plugin : Plugin μ) (answers : RegisterAnswers) (s : Lifecycle μ) :
    ∃ modules timeObserver isServiceReady, s.runInitReadyState plugin answers =
        { s with modules, timeObserver, isServiceReady } ∧
      ((initModules [plugin.stateManagerInit, plugin.strategyManagerInit,
        plugin.constraintManagerInit, plugin.listenerManagerInit, plugin.startListener]
        s.modules).1 = true → isServiceReady = true) := by
  unfold runInitReadyState
  split_ifs with hready
  · exact ⟨s.modules, s.timeObserver, s.isServiceReady, rfl, fun _ => hready⟩
  · generalize initModules _ s.modules = result
    obtain ⟨initialised, modules⟩ := result
    cases initialised with
    | false => exact ⟨modules, s.timeObserver, s.isServiceReady, rfl, fun h => by cases h⟩
    | true => exact ⟨modules, _, true, rfl, fun _ => rfl⟩

/-- The task of `UninitReadyState` leaves the service not ready. -/
theorem runUninitReadyState_spec (plugin : Plugin μ) (s : Lifecycle μ) :
    ∃ modules, s.runUninitReadyState plugin = { s with modules, isServiceReady := false } := by
  unfold runUninitReadyState
  split_ifs with hready
  · exact ⟨_, rfl⟩
  · rw [Bool.not_eq_true] at hready
    exact ⟨s.modules, by rw [← hready]⟩

/-- What is posted last decides. -/
theorem settled_posted (h : s.tasks = tasks ++ [task]) :
    s.settled = decide (task = .initReadyState) := by
  rw [settled, h, List.getLast?_concat]

/-- A task that is not the last does not decide. -/
theorem settled_cons {t : Lifecycle μ} (hs : s.tasks = task :: tasks) (ht : t.tasks = tasks)
    (hne : tasks ≠ []) : t.settled = s.settled := by
  obtain ⟨next, rest, rfl⟩ := List.exists_cons_of_ne_nil hne
  rw [settled, settled, hs, ht, List.getLast?_cons_cons,
    List.getLast?_eq_some_getLast (List.cons_ne_nil next rest)]

end Lifecycle

/-! ## Runs -/

section
variable {μ : Type} {modules : μ} {s t : Lifecycle μ × AddNotices} {action : LifecycleAction μ}
  {notices : AddNotices} {mask : BitVec 32} {d : Dependency} {a : ObserverAnswers}

/-- The mask and the observers are what the notices say. -/
structure Informed (s : Lifecycle μ × AddNotices) : Prop where
  onlyDepends : OnlyDepends s.1.dependsReady
  bits : ∀ d : Dependency, s.1.dependsReady.getLsbD d.index = true ↔ s.2 d ≠ []
  commonEvent : s.1.commonEventObserver = observerOf (s.2 .commonEvent)
  appMgr : s.1.appStateObserver = observerOf (s.2 .appMgr)

/-- The mask is full exactly when no ability is missing. -/
theorem Informed.eq_all_iff (h : Informed s) :
    s.1.dependsReady = ALL_DEPENDS_READY ↔ s.2.Complete :=
  (DeviceStandby.eq_all_iff h.onlyDepends).trans (forall_congr' h.bits)

/-- One more notice leaves the observer that a registration leaves. -/
theorem observerOf_append (notices : List ObserverAnswers) (a : ObserverAnswers) :
    observerOf (notices ++ [a]) = (Lifecycle.registerObserver a (observerOf notices)).2 := by
  unfold observerOf Lifecycle.registerObserver
  rw [List.find?_append]
  cases notices.find? (·.created) with
  | some first => rfl
  | none =>
    rw [Option.none_or, List.find?_singleton]
    cases hcreated : a.created <;> cases hsubscribed : a.subscribed <;>
      simp [hsubscribed]

/-- Before the first notice no ability is there. -/
theorem informed_init : Informed (noticedLifecycle modules).init := by
  refine ⟨BitVec.zero_and, fun d => ?_, rfl, rfl⟩
  show (0 : BitVec 32).getLsbD d.index = true ↔ ([] : List ObserverAnswers) ≠ []
  simp

/-- An add notice sets the bit and registers the observers that it can. -/
theorem Informed.add (h : Informed s) (d : Dependency) (a : ObserverAnswers) :
    Informed (s.1.onAddSystemAbility (.dependency d) a,
      s.2.record (.addSystemAbility (.dependency d) a : LifecycleAction μ)) := by
  obtain ⟨timeObserver, messages, heq⟩ := s.1.onAddSystemAbility_spec (.dependency d) a
  rw [heq]
  have hother : ∀ d', d' ≠ d → s.2.record
      (.addSystemAbility (.dependency d) a : LifecycleAction μ) d' = s.2 d' :=
    fun d' hne => Function.update_of_ne hne ..
  have hself : s.2.record (.addSystemAbility (.dependency d) a : LifecycleAction μ) d =
      s.2 d ++ [a] := Function.update_self ..
  refine ⟨h.onlyDepends.or d, fun d' => ?_, ?_, ?_⟩
  · dsimp only [SystemAbility.bits]
    rw [getLsbD_or_ready, Bool.or_eq_true, h.bits d', decide_eq_true_eq]
    by_cases hd : d' = d
    · rw [hd, hself]
      simp
    · rw [hother d' hd, or_iff_left hd]
  · dsimp only
    split_ifs with hd
    · cases hd
      rw [h.commonEvent, hself, observerOf_append]
    · rw [h.commonEvent, hother _ fun heq => hd (heq ▸ rfl)]
  · dsimp only
    split_ifs with hd
    · cases hd
      rw [h.appMgr, hself, observerOf_append]
    · rw [h.appMgr, hother _ fun heq => hd (heq ▸ rfl)]

/-- A remove notice clears the bit and drops the observers. -/
theorem Informed.remove (h : Informed s) (d : Dependency) (a : ObserverAnswers) :
    Informed (s.1.onRemoveSystemAbility (.dependency d) a,
      s.2.record (.removeSystemAbility (.dependency d) a : LifecycleAction μ)) := by
  obtain ⟨timeObserver, messages, heq⟩ := s.1.onRemoveSystemAbility_spec (.dependency d) a
  rw [heq]
  have hother : ∀ d', d' ≠ d → s.2.record
      (.removeSystemAbility (.dependency d) a : LifecycleAction μ) d' = s.2 d' :=
    fun d' hne => Function.update_of_ne hne ..
  have hself : s.2.record (.removeSystemAbility (.dependency d) a : LifecycleAction μ) d = [] :=
    Function.update_self ..
  refine ⟨h.onlyDepends.and_not d, fun d' => ?_, ?_, ?_⟩
  · dsimp only [SystemAbility.bits]
    rw [getLsbD_and_not_ready, Bool.and_eq_true, h.bits d', Bool.not_eq_true',
      decide_eq_false_iff_not]
    by_cases hd : d' = d
    · rw [hd, hself]
      simp
    · rw [hother d' hd, and_iff_left hd]
  · dsimp only
    split_ifs with hd
    · cases hd
      rw [hself]
      rfl
    · rw [h.commonEvent, hother _ fun heq => hd (heq ▸ rfl)]
  · dsimp only
    split_ifs with hd
    · cases hd
      rw [hself]
      rfl
    · rw [h.appMgr, hother _ fun heq => hd (heq ▸ rfl)]

/-- Only the mask, the observers and the notices matter. -/
theorem Informed.congr (h : Informed s) (hmask : t.1.dependsReady = s.1.dependsReady)
    (hcommonEvent : t.1.commonEventObserver = s.1.commonEventObserver)
    (happMgr : t.1.appStateObserver = s.1.appStateObserver) (hnotices : t.2 = s.2) :
    Informed t := by
  constructor
  · rw [hmask]
    exact h.onlyDepends
  · rw [hmask, hnotices]
    exact h.bits
  · rw [hcommonEvent, hnotices, h.commonEvent]
  · rw [happMgr, hnotices, h.appMgr]

/-- A step keeps the mask and the observers in agreement with the notices. -/
theorem Informed.step (h : Informed s) (hs : (noticedLifecycle modules).step s action = some t) :
    Informed t := by
  obtain ⟨hs, hnotices⟩ := Lts.System.withGhost_step_iff.1 hs
  obtain ⟨t, notices⟩ := t
  dsimp only at hs hnotices
  cases action with
  | addSystemAbility systemAbility a =>
    cases hs
    cases systemAbility with
    | dependency d =>
      rw [hnotices]
      exact h.add d a
    | other systemAbilityId =>
      obtain ⟨timeObserver, messages, heq⟩ := s.1.onAddSystemAbility_spec (.other systemAbilityId) a
      rw [heq]
      exact h.congr BitVec.or_zero rfl rfl hnotices
  | removeSystemAbility systemAbility a =>
    cases hs
    cases systemAbility with
    | dependency d =>
      rw [hnotices]
      exact h.remove d a
    | other systemAbilityId =>
      obtain ⟨timeObserver, messages, heq⟩ :=
        s.1.onRemoveSystemAbility_spec (.other systemAbilityId) a
      rw [heq]
      have hmask : s.1.dependsReady &&& ~~~(0 : BitVec 32) = s.1.dependsReady := BitVec.and_allOnes
      exact h.congr hmask rfl rfl hnotices
  | runTask plugin answers =>
    dsimp only [noticedLifecycle, lifecycleSystem, Lifecycle.step] at hs
    split at hs
    · cases hs
    · rename_i tasks htasks
      obtain ⟨modules', timeObserver, isServiceReady, heq, -⟩ :=
        Lifecycle.runInitReadyState_spec plugin answers { s.1 with tasks }
      cases hs
      rw [heq]
      exact h.congr rfl rfl rfl hnotices
    · rename_i tasks htasks
      obtain ⟨modules', heq⟩ := Lifecycle.runUninitReadyState_spec plugin { s.1 with tasks }
      cases hs
      rw [heq]
      exact h.congr rfl rfl rfl hnotices

/-- Adding never takes an ability away, removing never brings one. -/
theorem AddNotices.Complete.of_add (systemAbility : SystemAbility) (a : ObserverAnswers)
    (h : notices.Complete) :
    (notices.record (.addSystemAbility systemAbility a : LifecycleAction μ)).Complete := by
  cases systemAbility with
  | other => exact h
  | dependency d =>
    intro d'
    by_cases hd : d' = d
    · rw [hd, record, Function.update_self]
      exact List.append_ne_nil_of_right_ne_nil _ (List.cons_ne_nil a [])
    · rw [record, Function.update_of_ne hd]
      exact h d'

/-- Nothing is missing after a notice that an ability has gone, so nothing was before. -/
theorem AddNotices.Complete.of_remove {systemAbility : SystemAbility}
    (h : (notices.record (.removeSystemAbility systemAbility a : LifecycleAction μ)).Complete) :
    notices.Complete := by
  cases systemAbility with
  | other => exact h
  | dependency d =>
    refine absurd ?_ (h d)
    rw [record, Function.update_self]

/-- What a step does to what the pending tasks amount to: it sets it to whether an ability is
missing, it changes neither, or an attempt to initialise fails. -/
theorem Informed.settled_step (h : Informed s)
    (hs : (noticedLifecycle modules).step s action = some t) :
    (t.1.settled = true ↔ t.2.Complete) ∨
      (t.1.settled = s.1.settled ∧ (t.2.Complete ↔ s.2.Complete)) ∨
      (t.1.settled = false ∧ ¬ action.Initialises s) := by
  have ht := h.step hs
  rw [noticedLifecycle, Lts.System.withGhost_step_iff] at hs
  obtain ⟨hs, hnotices⟩ := hs
  obtain ⟨t, notices⟩ := t
  dsimp only at hs hnotices
  cases action with
  | addSystemAbility systemAbility a =>
    cases hs
    obtain ⟨timeObserver, messages, heq⟩ := s.1.onAddSystemAbility_spec systemAbility a
    rw [heq] at ht ⊢
    have hall := ht.eq_all_iff
    dsimp only at hall ⊢
    by_cases hmask : s.1.dependsReady ||| systemAbility.bits = ALL_DEPENDS_READY
    · left
      rw [Lifecycle.settled_posted (if_pos hmask)]
      exact iff_of_true rfl (hall.1 hmask)
    · rw [if_neg hmask]
      refine .inr (.inl ⟨rfl, iff_of_false (fun hc => hmask (hall.2 hc)) fun hc => ?_⟩)
      exact hmask (hall.2 (hnotices ▸ hc.of_add systemAbility a))
  | removeSystemAbility systemAbility a =>
    cases hs
    obtain ⟨timeObserver, messages, heq⟩ := s.1.onRemoveSystemAbility_spec systemAbility a
    rw [heq] at ht ⊢
    have hall := ht.eq_all_iff
    dsimp only at hall ⊢
    by_cases hmask : s.1.dependsReady &&& ~~~systemAbility.bits = ALL_DEPENDS_READY
    · rw [if_pos hmask]
      refine .inr (.inl ⟨rfl, iff_of_true (hall.1 hmask) ?_⟩)
      exact AddNotices.Complete.of_remove (hnotices ▸ hall.1 hmask)
    · left
      rw [Lifecycle.settled_posted (if_neg hmask)]
      exact iff_of_false Bool.false_ne_true fun hc => hmask (hall.2 hc)
  | runTask plugin answers =>
    cases hnotices
    dsimp only [lifecycleSystem, Lifecycle.step] at hs
    split at hs
    · cases hs
    · rename_i tasks htasks
      obtain ⟨modules', timeObserver, isServiceReady, heq, hinit⟩ :=
        Lifecycle.runInitReadyState_spec plugin answers { s.1 with tasks }
      cases hs
      rw [heq]
      by_cases hlast : tasks = []
      · subst hlast
        by_cases hready : isServiceReady = true
        · refine .inr (.inl ⟨?_, Iff.rfl⟩)
          simp only [Lifecycle.settled, htasks, hready, List.getLast?_nil, List.getLast?_singleton]
          rfl
        · exact .inr (.inr ⟨Bool.eq_false_iff.2 hready, fun hi => hready (hinit hi)⟩)
      · exact .inr (.inl ⟨Lifecycle.settled_cons htasks rfl hlast, Iff.rfl⟩)
    · rename_i tasks htasks
      obtain ⟨modules', heq⟩ := Lifecycle.runUninitReadyState_spec plugin { s.1 with tasks }
      cases hs
      rw [heq]
      refine .inr (.inl ⟨?_, Iff.rfl⟩)
      by_cases hlast : tasks = []
      · subst hlast
        simp only [Lifecycle.settled, htasks, List.getLast?_nil, List.getLast?_singleton]
        rfl
      · exact Lifecycle.settled_cons htasks rfl hlast

/-- In every state of a run the mask and the observers agree with the notices. -/
theorem informed_of_reachable (h : Lts.Reachable (noticedLifecycle modules) s) : Informed s :=
  h.invariant informed_init fun _ _ hs hi => hi.step hs

/-- A service that is ready, or that is about to be, misses no ability. -/
theorem complete_of_settled (h : Lts.Reachable (noticedLifecycle modules) s) :
    s.1.settled = true → s.2.Complete := by
  refine Lts.ReachableUnder.invariant (I := fun s => s.1.settled = true → s.2.Complete) ?_ ?_ h
  · intro hsettled
    cases hsettled
  · intro s t action hr _ hs ih hsettled
    rcases (informed_of_reachable hr).settled_step hs with hiff | ⟨hsame, hnotices⟩ | ⟨hfalse, -⟩
    · exact hiff.1 hsettled
    · exact hnotices.2 (ih (hsame ▸ hsettled))
    · rw [hfalse] at hsettled
      cases hsettled

/-- When no attempt to initialise fails, a service that misses no ability is ready, or about to
be. -/
theorem settled_of_complete
    (h : Lts.ReachableUnder (noticedLifecycle modules) (fun s a => a.Initialises s) s) :
    s.2.Complete → s.1.settled = true := by
  refine Lts.ReachableUnder.invariant (I := fun s => s.2.Complete → s.1.settled = true) ?_ ?_ h
  · intro hcomplete
    exact absurd rfl (hcomplete .commonEvent)
  · intro s t action hr hok hs ih hcomplete
    rcases (informed_of_reachable hr.reachable).settled_step hs with
      hiff | ⟨hsame, hnotices⟩ | ⟨-, hfailed⟩
    · exact hiff.2 hcomplete
    · rw [hsame]
      exact ih (hnotices.1 hcomplete)
    · exact absurd hok hfailed

/-- Once the posted tasks have run, a service that is ready misses no ability that it depends on,
and it is ready whenever it misses none and no attempt to initialise its modules has failed. -/
theorem ready_iff_present (modules : μ) (s : Lifecycle μ × AddNotices)
    (h : Lts.Reachable (noticedLifecycle modules) s) (htasks : s.1.tasks = []) :
    (s.1.isServiceReady = true → s.2.Complete) ∧
      (Lts.ReachableUnder (noticedLifecycle modules) (fun s a => a.Initialises s) s →
        s.2.Complete → s.1.isServiceReady = true) := by
  have hsettled : s.1.settled = s.1.isServiceReady := by
    rw [Lifecycle.settled, htasks, List.getLast?_nil]
  rw [← hsettled]
  exact ⟨complete_of_settled h, settled_of_complete⟩

/-- Over every run the mask is full exactly when no ability is missing, and the observers of common
events and of app states are those of the first add notice since the ability was last gone at which
they could be allocated: a subscription that failed is not repeated by any later notice. -/
theorem observers_follow_notices (modules : μ) (s : Lifecycle μ × AddNotices)
    (h : Lts.Reachable (noticedLifecycle modules) s) :
    (s.1.dependsReady = ALL_DEPENDS_READY ↔ s.2.Complete) ∧
      s.1.commonEventObserver = observerOf (s.2 .commonEvent) ∧
      s.1.appStateObserver = observerOf (s.2 .appMgr) :=
  ⟨(informed_of_reachable h).eq_all_iff, (informed_of_reachable h).commonEvent,
    (informed_of_reachable h).appMgr⟩

end

/-! ## Two runs -/

instance {μ : Type} (s : Lifecycle μ × AddNotices) :
    (action : LifecycleAction μ) → Decidable (action.Initialises s)
  | .addSystemAbility .. => isTrue trivial
  | .removeSystemAbility .. => isTrue trivial
  | .runTask plugin _ =>
    inferInstanceAs (Decidable ((Lifecycle.initModules [plugin.stateManagerInit,
      plugin.strategyManagerInit, plugin.constraintManagerInit, plugin.listenerManagerInit,
      plugin.startListener] s.1.modules).1 = true))

/-- A platform that answers every call; a subscription succeeds when `subscribed` says so. -/
private def willing (subscribed : Bool) : ObserverAnswers where
  created := true
  subscribed
  register :=
    { timeDiff := some 0, randomDelay := 0, wallTimeMs := 0, startTimer := true
      createTimer := true }
  stopTimer := true
  destroyTimer := true

/-- Modules that count their calls; the listeners start when `started` says so. -/
private def countingPlugin (started : Bool) : Plugin Nat where
  stateManagerInit n := (true, n + 1)
  strategyManagerInit n := (true, n + 1)
  constraintManagerInit n := (true, n + 1)
  listenerManagerInit n := (true, n + 1)
  startListener n := (started, n + 1)
  listenerManagerUnInit n := n + 1
  constraintManagerUnInit n := n + 1
  strategyManagerUnInit n := n + 1
  stateManagerUnInit n := n + 1

private def allDependencies : List (LifecycleAction Nat) :=
  [.commonEvent, .timeService, .abilityMgr, .bundleMgr, .powerManager, .appMgr,
    .multimodalInput].map fun d => .addSystemAbility (.dependency d) (willing true)

/-- The abilities come, the service becomes ready, the power manager goes and comes back. -/
theorem ready_iff_present_sample :
    ∃ s, Lts.ReachableUnder (noticedLifecycle 0) (fun s a => a.Initialises s) s ∧
      s.1.tasks = [] ∧ s.1.modules = 14 ∧ s.1.isServiceReady = true ∧ s.2.Complete := by
  obtain ⟨s, hr, h⟩ := Lts.System.exists_check (noticedLifecycle (0 : Nat))
    (fun s a => a.Initialises s) (fun s a => decide (a.Initialises s))
    (fun _ _ => of_decide_eq_true)
    (fun s => decide (s.1.tasks = [] ∧ s.1.modules = 14 ∧ s.1.isServiceReady = true))
    (allDependencies ++ [.runTask (countingPlugin true) (willing true).register,
      .removeSystemAbility (.dependency .powerManager) (willing true),
      .runTask (countingPlugin true) (willing true).register,
      .addSystemAbility (.dependency .powerManager) (willing true),
      .runTask (countingPlugin true) (willing true).register]) (by decide +kernel)
  obtain ⟨htasks, hmodules, hready⟩ := of_decide_eq_true h
  have hcomplete := (ready_iff_present 0 s hr.reachable htasks).1 hready
  exact ⟨s, hr, htasks, hmodules, (ready_iff_present 0 s hr.reachable htasks).2 hr hcomplete,
    hcomplete⟩

/-- The first subscription to common events fails and the next notices do not repeat it. -/
theorem observers_follow_notices_sample :
    ∃ s, Lts.Reachable (noticedLifecycle 0) s ∧
      observerOf (s.2 .commonEvent) = some false ∧ s.1.isServiceReady = true ∧ s.2.Complete := by
  obtain ⟨s, hr, h⟩ := Lts.System.exists_check (noticedLifecycle (0 : Nat))
    (fun _ _ => True) (fun _ _ => true) (fun _ _ _ => trivial)
    (fun s => decide (s.1.commonEventObserver = some false ∧ s.1.isServiceReady = true ∧
      s.1.dependsReady = ALL_DEPENDS_READY))
    ([.addSystemAbility (.dependency .commonEvent) (willing false)] ++ allDependencies ++
      [.runTask (countingPlugin true) (willing true).register]) (by decide +kernel)
  obtain ⟨hobserver, hready, hmask⟩ := of_decide_eq_true h
  obtain ⟨hall, hcommonEvent, -⟩ := observers_follow_notices 0 s hr
  exact ⟨s, hr, hcommonEvent ▸ hobserver, hready, hall.1 hmask⟩

end DeviceStandby
