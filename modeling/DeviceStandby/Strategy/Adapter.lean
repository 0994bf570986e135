import DeviceStandby.State.Queue
import DeviceStandby.Strategy.Network
import DeviceStandby.Strategy.Proxied
import Mathlib.Logic.Function.Iterate

/-!
# The state machine with its strategies

`StrategyManagerAdapter` hands every message to the strategies after the state manager has handled
it. A strategy learns of the state only by these messages, so it lags behind the state manager, and
nothing of what it restricts is reported back. Here the two are put together (`standbySystem`):
once all messages are handled in a state other than SLEEP, no running lock is proxied and the
network is not restricted, in every run that avoids what `KeepsLocks` names.
-/

namespace DeviceStandby

/-- The strategies of `strategyMap_`. -/
inductive Strategy where
  | network | runningLock
  deriving DecidableEq, Repr

/-- `strategyMap_`, by the names of the configuration. -/
def strategyMap (name : String) : Option Strategy :=
  if name = "NETWORK" then some .network
  else if name = "RUNNING_LOCK" then some .runningLock
  else none

/-- The service and the strategy objects. These are static: they outlive a stop of the service. -/
structure Standby where
  service : Service := {}
  /-- `strategyList_`. -/
  strategyList : List Strategy := []
  network : NetworkStrategy := {}
  runningLock : RunningLockStrategy := {}

/-- What the handler runs next, and what the platform answers the strategies meanwhile. -/
structure Turn where
  action : Action
  queries : Strategy → Queries

/-- Each strategy of a list handles something. -/
def Standby.forEach (network : NetworkStrategy → NetworkStrategy)
    (runningLock : RunningLockStrategy → RunningLockStrategy) (strategies : List Strategy)
    (s : Standby) : Standby :=
  strategies.foldl (fun s strategy =>
    match strategy with
    | .network => { s with network := network s.network }
    | .runningLock => { s with runningLock := runningLock s.runningLock }) s

/-- The messages that the network strategy has handed to `DispatchEvent` go to the queue. -/
def Standby.flush (s : Standby) : Standby :=
  { s with
    service := s.network.posted.foldl
      (fun service status => service.dispatchEvent (.deviceNetIdlePolicyTransit status)) s.service
    network.posted := [] }

namespace StrategyManagerAdapter
variable (scfg : StrategyConfig)

/-- `StrategyManagerAdapter::Init`, which registers the configured strategies. -/
def init (s : Standby) : Standby :=
  let strategies := scfg.strategyConfigList.filterMap strategyMap
  let s := s.forEach (·.onCreated) (·.onCreated) strategies
  { s with strategyList := s.strategyList ++ strategies }

/-- `StrategyManagerAdapter::UnInit`. -/
def unInit (s : Standby) : Standby :=
  { s.forEach (·.onDestroy) (·.onDestroy) s.strategyList with strategyList := [] }

/-- `StrategyManagerAdapter::HandleEvent`. -/
def handleEvent (queries : Strategy → Queries) (message : StandbyMessage) (s : Standby) : Standby :=
  s.forEach (NetworkStrategy.handleEvent scfg (queries .network) message)
    (RunningLockStrategy.handleEvent scfg (queries .runningLock) message) s.strategyList

end StrategyManagerAdapter

section
variable (cfg : StandbyConfig) (scfg : StrategyConfig)

/-- `InitReadyState` creates the strategies before the service is ready, so what they dispatch is
dropped; `UninitReadyState` destroys them while it still is. -/
def Standby.prepare (action : Action) (s : Standby) : Standby :=
  match action with
  | .initReadyState _ =>
    if s.service.isServiceReady then s else (StrategyManagerAdapter.init scfg s).flush
  | .uninitReadyState _ =>
    if s.service.isServiceReady then (StrategyManagerAdapter.unInit s).flush else s
  | _ => s

/-- What one turn does. A message goes to the state manager first, then to the strategies. -/
def Standby.act (s : Standby) (turn : Turn) : Option Standby :=
  match turn.action with
  | .dispatch p => do
    let message ← s.service.handler.queue.head?
    let service ← DeviceStandby.act cfg s.service (.dispatch p)
    return (StrategyManagerAdapter.handleEvent scfg turn.queries message
      { s with service := service }).flush
  | action => do
    let s := s.prepare scfg action
    let service ← DeviceStandby.act cfg s.service action
    return { s with service := service }

/-- The service and its strategies as a transition system. -/
def standbySystem : Lts.System Standby Turn where
  init := {}
  step s turn := (s.act cfg scfg turn).filter fun s' => !s'.service.crashed

/-- No strategy handles a message that breaks what it has proxied. -/
def KeepsRestrictions (s : Standby) (turn : Turn) : Prop :=
  ∀ p message queue, turn.action = .dispatch p → s.service.handler.queue = message :: queue →
    .runningLock ∈ s.strategyList →
      (s.runningLock).KeepsLocks (turn.queries .runningLock) message

end

section
variable {cfg : StandbyConfig} {scfg : StrategyConfig} {s t : Standby} {turn : Turn}
  {ok : Standby → Turn → Prop}

/-- Each strategy handles something as often as it is in the list. -/
theorem Standby.forEach_eq (network : NetworkStrategy → NetworkStrategy)
    (runningLock : RunningLockStrategy → RunningLockStrategy) (strategies : List Strategy)
    (s : Standby) :
    s.forEach network runningLock strategies =
      { s with
        network := network^[strategies.count .network] s.network
        runningLock := runningLock^[strategies.count .runningLock] s.runningLock } := by
  unfold Standby.forEach
  induction strategies generalizing s with
  | nil => rfl
  | cons strategy strategies ih =>
    rw [List.foldl_cons, ih]
    cases strategy <;> simp

/-- Creating strategies leaves the service alone. -/
theorem init_service (scfg : StrategyConfig) (s : Standby) :
    (StrategyManagerAdapter.init scfg s).service = s.service := by
  unfold StrategyManagerAdapter.init
  dsimp only
  rw [Standby.forEach_eq]

/-- So does destroying them. -/
theorem unInit_service (s : Standby) : (StrategyManagerAdapter.unInit s).service = s.service := by
  unfold StrategyManagerAdapter.unInit
  rw [Standby.forEach_eq]

/-- What a turn can do. -/
theorem Standby.act_cases (h : s.act cfg scfg turn = some t) :
    (∃ p message queue service, turn.action = .dispatch p ∧
      s.service.handler.queue = message :: queue ∧
      DeviceStandby.act cfg s.service (.dispatch p) = some service ∧
      t = (StrategyManagerAdapter.handleEvent scfg turn.queries message
        { s with service := service }).flush) ∨
    ∃ service, (∀ p, turn.action ≠ .dispatch p) ∧
      DeviceStandby.act cfg (s.prepare scfg turn.action).service turn.action = some service ∧
      t = { s.prepare scfg turn.action with service := service } := by
  unfold Standby.act at h
  split at h
  · rename_i p ha
    obtain ⟨message, hmessage, h⟩ := Option.bind_eq_some_iff.1 h
    obtain ⟨service, hact, h⟩ := Option.bind_eq_some_iff.1 h
    cases h
    obtain ⟨queue, hqueue⟩ := List.head?_eq_some_iff.1 hmessage
    exact .inl ⟨p, message, queue, service, ha, hqueue, hact, rfl⟩
  · rename_i hdispatch
    obtain ⟨service, hact, h⟩ := Option.bind_eq_some_iff.1 h
    cases h
    exact .inr ⟨service, hdispatch, hact, rfl⟩

/-- Before an action the strategies are started, stopped, or left as they are. -/
theorem Standby.prepare_cases (s : Standby) (action : Action) :
    s.prepare scfg action = s ∨ s.prepare scfg action = (StrategyManagerAdapter.init scfg s).flush ∨
      s.prepare scfg action = (StrategyManagerAdapter.unInit s).flush := by
  unfold Standby.prepare
  split
  · split_ifs
    · exact .inl rfl
    · exact .inr (.inl rfl)
  · split_ifs
    · exact .inr (.inr rfl)
    · exact .inl rfl
  · exact .inl rfl

/-! ## The service is the one without strategies -/

/-- No process that has ended is reachable. -/
theorem alive_of_reachable {s : Service} (h : Lts.Reachable (system cfg) s) :
    s.crashed = false := by
  cases h with
  | init => rfl
  | step _ _ hs => exact ((system_step_iff cfg).1 hs).2

/-- What holds after every external message holds after a list of them. -/
theorem Standby.flush_service {I : Service → Prop} (h : I s.service)
    (hI : ∀ service status, I service →
      I (service.dispatchEvent (.deviceNetIdlePolicyTransit status))) : I s.flush.service :=
  List.foldlRecOn (motive := I) _ _ h fun service hi status _ => hI service status hi

/-- The strategies post messages as a listener does. -/
theorem post_step {s : Service} (h : Lts.Reachable (system cfg) s) (status : Bool) :
    (system cfg).step s (.post (.deviceNetIdlePolicyTransit status)) =
      some (s.dispatchEvent (.deviceNetIdlePolicyTransit status)) :=
  (system_step_iff cfg).2 ⟨rfl, alive_of_reachable (s := s) h⟩

/-- The messages of a strategy keep the service reachable and the queue leading to its state. -/
theorem flush_reachable {seen : StandbyState} (h : Lts.Reachable (system cfg) s.service)
    (hq : QueueFrom seen s.service.handler.queue s.service.curState) :
    Lts.Reachable (system cfg) s.flush.service ∧
      QueueFrom seen s.flush.service.handler.queue s.flush.service.curState := by
  refine Standby.flush_service (I := fun service => Lts.Reachable (system cfg) service ∧
    QueueFrom seen service.handler.queue service.curState) ⟨h, hq⟩ fun service status hi => ?_
  have hstep := post_step hi.1 status
  exact ⟨hi.1.step trivial hstep, hi.2.step hi.1 hstep nofun⟩

/-! ## The invariant -/

/-- The strategies follow the state machine: whoever has read the messages that the strategies have
read is at a state from which the queue leads to the current one, and the strategies restrict only
while that state is SLEEP. A strategy that is not registered restricts nothing. -/
structure Led (cfg : StandbyConfig) (s : Standby) (seen : StandbyState) : Prop where
  reachable : Lts.Reachable (system cfg) s.service
  queue : QueueFrom seen s.service.handler.queue s.service.curState
  policy : s.network.policy = true → seen = .sleep
  follows : s.runningLock.Follows seen
  networkOff : .network ∉ s.strategyList → s.network.policy = false
  runningLockOff : .runningLock ∉ s.strategyList →
    s.runningLock.isProxied = false ∧ s.runningLock.isIdleMaintence = false

/-- A function that is applied at least once establishes what it establishes from either of two
starting conditions. -/
theorem iterate_establishes {α : Type} {f : α → α} {P Q : α → Prop}
    (hf : ∀ a, P a ∨ Q a → Q (f a)) {n : Nat} {a : α} (hn : 0 < n) (ha : P a ∨ Q a) :
    Q (f^[n] a) := by
  induction n generalizing a with
  | zero => exact absurd hn (Nat.lt_irrefl 0)
  | succ n ih =>
    rw [Function.iterate_succ_apply]
    cases n with
    | zero => exact hf a ha
    | succ n => exact ih (Nat.succ_pos n) (.inr (hf a ha))

/-- Posting the policy messages moves no strategy. -/
theorem Led.flush {seen : StandbyState} (h : Led cfg s seen) : Led cfg s.flush seen := by
  obtain ⟨hr, hq⟩ := flush_reachable h.reachable h.queue
  exact { h with reachable := hr, queue := hq }

/-- Creating strategies leaves the running lock strategy's flags. -/
theorem init_sameMode (scfg : StrategyConfig) (s : Standby) :
    s.runningLock.SameMode (StrategyManagerAdapter.init scfg s).runningLock := by
  unfold StrategyManagerAdapter.init
  dsimp only
  rw [Standby.forEach_eq]
  have hcreated : ∀ r : RunningLockStrategy, s.runningLock.SameMode r →
      s.runningLock.SameMode r.onCreated := fun _ hr => hr
  exact Function.Iterate.rec s.runningLock.SameMode ⟨rfl, rfl⟩ hcreated _

/-- Destroying the strategies frees the running lock strategy. -/
theorem unInit_free (hoff : .runningLock ∉ s.strategyList →
      s.runningLock.isProxied = false ∧ s.runningLock.isIdleMaintence = false) :
    (StrategyManagerAdapter.unInit s).runningLock.isProxied = false ∧
      (StrategyManagerAdapter.unInit s).runningLock.isIdleMaintence = false := by
  unfold StrategyManagerAdapter.unInit
  rw [Standby.forEach_eq]
  by_cases hmem : .runningLock ∈ s.strategyList
  · exact iterate_establishes (P := fun _ => True)
      (Q := fun r : RunningLockStrategy => r.isProxied = false ∧ r.isIdleMaintence = false)
      (fun _ _ => ⟨rfl, rfl⟩) (List.count_pos_iff.2 hmem) (.inl trivial)
  · rw [List.count_eq_zero.2 hmem]
    exact hoff hmem

/-- The start of the strategies keeps them behind their reader. -/
theorem Led.init {seen : StandbyState} (h : Led cfg s seen) :
    Led cfg (StrategyManagerAdapter.init scfg s) seen := by
  have hmode := init_sameMode scfg s
  unfold StrategyManagerAdapter.init at hmode ⊢
  dsimp only at hmode ⊢
  rw [Standby.forEach_eq] at hmode ⊢
  generalize scfg.strategyConfigList.filterMap strategyMap = strategies at hmode ⊢
  have hoff : ∀ n, (NetworkStrategy.onCreated^[n] s.network).policy = true →
      s.network.policy = true := fun n => by
    induction n with
    | zero => exact id
    | succ n _ =>
      rw [Function.iterate_succ_apply']
      intro hp
      cases hp
  exact {
    reachable := h.reachable
    queue := h.queue
    policy := fun hp => h.policy (hoff _ hp)
    follows := h.follows.of_sameMode hmode
    networkOff := fun hmem => by
      have := h.networkOff fun hm => hmem (List.mem_append_left _ hm)
      by_contra hp
      rw [hoff _ (by simpa using hp)] at this
      cases this
    runningLockOff := fun hmem => by
      obtain ⟨hproxied, hidle⟩ := h.runningLockOff fun hm => hmem (List.mem_append_left _ hm)
      exact ⟨hmode.1.trans hproxied, hmode.2.trans hidle⟩ }

/-- So does their stop. -/
theorem Led.unInit {seen : StandbyState} (h : Led cfg s seen) :
    Led cfg (StrategyManagerAdapter.unInit s) seen := by
  have hfree := unInit_free h.runningLockOff
  unfold StrategyManagerAdapter.unInit at hfree ⊢
  rw [Standby.forEach_eq] at hfree ⊢
  have hpolicy : (NetworkStrategy.onDestroy^[s.strategyList.count .network] s.network).policy =
      false := by
    by_cases hmem : .network ∈ s.strategyList
    · refine iterate_establishes (P := fun _ => True)
        (Q := fun n : NetworkStrategy => n.policy = false) (fun _ _ => rfl)
        (List.count_pos_iff.2 hmem) (.inl trivial)
    · rw [List.count_eq_zero.2 hmem]
      exact h.networkOff hmem
  exact {
    reachable := h.reachable
    queue := h.queue
    policy := fun hp => by
      rw [hpolicy] at hp
      cases hp
    follows := .of_free hfree.1 hfree.2
    networkOff := fun _ => hpolicy
    runningLockOff := fun _ => hfree }

/-- The strategies read a message. -/
theorem Led.handleEvent {seen : StandbyState} {message : StandbyMessage}
    {queries : Strategy → Queries} {service : Service} (h : Led cfg s seen)
    (hfits : message.FitsAt seen) (hr : Lts.Reachable (system cfg) service)
    (hq : QueueFrom (message.after seen) service.handler.queue service.curState) :
    Led cfg (StrategyManagerAdapter.handleEvent scfg queries message { s with service := service })
      (message.after seen) := by
  unfold StrategyManagerAdapter.handleEvent
  rw [Standby.forEach_eq]
  exact {
    reachable := hr
    queue := hq
    policy := by
      by_cases hmem : .network ∈ s.strategyList
      · refine iterate_establishes (P := fun n : NetworkStrategy => n.policy = true → seen = .sleep)
          (Q := fun n : NetworkStrategy => n.policy = true → message.after seen = .sleep)
          (fun n hn => ?_) (List.count_pos_iff.2 hmem) (.inl h.policy)
        exact NetworkStrategy.policy_handleEvent hfits fun hp =>
          hn.imp (fun hn => hn hp) fun hn => hn hp
      · rw [List.count_eq_zero.2 hmem]
        intro hp
        exact absurd (h.networkOff hmem) (by simpa using hp)
    follows := by
      by_cases hmem : .runningLock ∈ s.strategyList
      · exact iterate_establishes (P := RunningLockStrategy.Follows seen)
          (Q := RunningLockStrategy.Follows (message.after seen))
          (fun r hr => RunningLockStrategy.Follows.handleEvent hfits hr)
          (List.count_pos_iff.2 hmem) (.inl h.follows)
      · rw [List.count_eq_zero.2 hmem]
        obtain ⟨hproxied, hidle⟩ := h.runningLockOff hmem
        exact .of_free hproxied hidle
    networkOff := fun hmem => by
      rw [List.count_eq_zero.2 hmem]
      exact h.networkOff hmem
    runningLockOff := fun hmem => by
      rw [List.count_eq_zero.2 hmem]
      exact h.runningLockOff hmem }

/-- Posting a message ends no process. -/
theorem flush_crashed (s : Standby) : s.flush.service.crashed = s.service.crashed :=
  Standby.flush_service (I := fun service => service.crashed = s.service.crashed) rfl
    fun _ _ hi => hi

/-- A turn keeps the strategies led. -/
theorem Led.step {seen : StandbyState} (h : Led cfg s seen)
    (hs : (standbySystem cfg scfg).step s turn = some t) : ∃ seen', Led cfg t seen' := by
  obtain ⟨hact, halive⟩ := Option.filter_eq_some_iff.1 hs
  simp only [Bool.not_eq_true'] at halive
  rcases s.act_cases hact with ⟨p, message, queue, service, -, hqueue, hservice, rfl⟩ |
    ⟨service, hdispatch, hservice, rfl⟩
  · rw [flush_crashed, StrategyManagerAdapter.handleEvent, Standby.forEach_eq] at halive
    have hstep := (system_step_iff cfg).2 ⟨hservice, halive⟩
    obtain ⟨message', queue', hqueue', hfits, hq⟩ := h.queue.dispatch h.reachable hstep
    obtain ⟨rfl, -⟩ := List.cons.inj (hqueue.symm.trans hqueue')
    exact ⟨_, (h.handleEvent hfits (h.reachable.step trivial hstep) hq).flush⟩
  · have hprepare : Led cfg (s.prepare scfg turn.action) seen := by
      rcases s.prepare_cases turn.action with heq | heq | heq <;> rw [heq]
      · exact h
      · exact h.init.flush
      · exact h.unInit.flush
    have hstep := (system_step_iff cfg).2 ⟨hservice, halive⟩
    exact ⟨seen, { hprepare with
      reachable := hprepare.reachable.step trivial hstep
      queue := hprepare.queue.step hprepare.reachable hstep hdispatch }⟩

/-- In every run. -/
theorem led_reachable (h : Lts.ReachableUnder (standbySystem cfg scfg) ok s) :
    ∃ seen, Led cfg s seen := by
  have hinit : Led cfg {} .working := {
    reachable := .init
    queue := rfl
    policy := nofun
    follows := .of_free rfl rfl
    networkOff := fun _ => rfl
    runningLockOff := fun _ => ⟨rfl, rfl⟩ }
  refine h.invariant (I := fun s => ∃ seen, Led cfg s seen) ⟨.working, hinit⟩ fun _ _ hs hi => ?_
  obtain ⟨_, hi⟩ := hi
  exact hi.step hs

/-! ## The running locks -/

/-- A turn that keeps the restrictions keeps what is proxied held. -/
theorem held_step (h : s.runningLock.Held)
    (hs : (standbySystem cfg scfg).step s turn = some t) (hok : KeepsRestrictions s turn) :
    t.runningLock.Held := by
  obtain ⟨hact, -⟩ := Option.filter_eq_some_iff.1 hs
  rcases s.act_cases hact with ⟨p, message, queue, service, ha, hqueue, -, rfl⟩ |
    ⟨service, -, -, rfl⟩
  · unfold StrategyManagerAdapter.handleEvent
    rw [Standby.forEach_eq]
    by_cases hmem : .runningLock ∈ s.strategyList
    · have hkeeps := hok p message queue ha hqueue hmem
      exact (Function.Iterate.rec
        (fun r : RunningLockStrategy =>
          r.Held ∧ RunningLockStrategy.KeepsLocks (turn.queries .runningLock) r message)
        ⟨h, hkeeps⟩ (fun r hr => ⟨hr.1.handleEvent hr.2, hr.2.handleEvent⟩)
        (s.strategyList.count .runningLock)).1
    · show RunningLockStrategy.Held (_^[s.strategyList.count .runningLock] s.runningLock)
      rw [List.count_eq_zero.2 hmem]
      exact h
  · show RunningLockStrategy.Held (s.prepare scfg turn.action).runningLock
    rcases s.prepare_cases turn.action with heq | heq | heq <;> rw [heq]
    · exact h
    · unfold StrategyManagerAdapter.init Standby.flush
      dsimp only
      rw [Standby.forEach_eq]
      have hcreated : ∀ r : RunningLockStrategy, r.Held → r.onCreated.Held := fun r hr =>
        .of_empty hr.keyed rfl
      exact Function.Iterate.rec RunningLockStrategy.Held h hcreated _
    · unfold StrategyManagerAdapter.unInit Standby.flush
      dsimp only
      rw [Standby.forEach_eq]
      exact Function.Iterate.rec RunningLockStrategy.Held h (fun r hr => hr.onDestroy.1) _

/-- In every run whose turns keep the restrictions, once every message has been handled in a state
other than SLEEP, no running lock is proxied and the device-idle network policy is off. -/
theorem nothing_restricted_awake
    (h : Lts.ReachableUnder (standbySystem cfg scfg) KeepsRestrictions s)
    (hqueue : s.service.handler.queue = []) (hcur : s.service.curState ≠ .sleep) :
    s.runningLock.proxied = ∅ ∧ s.network.policy = false := by
  obtain ⟨seen, hled⟩ := led_reachable h
  have hheld : s.runningLock.Held := h.invariant (I := fun s => s.runningLock.Held)
    (.of_empty .empty rfl) fun _ hok hs hi => held_step hi hs hok
  obtain rfl : seen = s.service.curState := by
    have hq := hled.queue
    rw [hqueue] at hq
    exact hq
  constructor
  · refine Finset.eq_empty_of_forall_notMem fun lock hmem => hcur ?_
    obtain ⟨hproxied, hidle, -⟩ := hheld.locks lock hmem
    exact hled.follows.proxying hproxied hidle
  · cases hpolicy : s.network.policy with
    | false => rfl
    | true => exact absurd (hled.policy hpolicy) hcur

/-! ## Concrete runs -/

/-- Both strategies are configured. -/
def sampleStrategies : StrategyConfig where
  strategyConfigList := ["NETWORK", "RUNNING_LOCK"]
  conditionalRestrictNetApp := []
  workScheduleServiceId := 1904
  backgroundTaskManagerServiceId := 1903

/-- One app runs, and nothing exempts it. -/
def sampleQueries : Queries where
  applicationInfos := some [⟨"app", 10, false⟩]
  applicationInfosSpecial := [⟨"app", 10, false⟩]
  runningProcesses := some [⟨"app", 10, 7⟩]
  foregroundApplications := some []
  continuousTaskApps := some []
  transientTaskApps := some []
  runningWorks := some []
  allowNameList _ := []
  restrictSet _ := []
  isSystemAppByUid _ := false
  appRunningState _ := none
  clientBundleName _ := ""
  condition := .dayStandby

/-- Turns in which only that app runs. -/
def sampleTurns (actions : List Action) : List Turn :=
  actions.map fun action => ⟨action, fun _ => sampleQueries⟩

/-- The handler runs the first messages of the queue. -/
def dispatching (n : Nat) : List Action :=
  List.replicate n (.dispatch samplePlatform)

/-- A test that suffices for `KeepsRestrictions`. -/
def restrictionTest (s : Standby) (turn : Turn) : Bool :=
  match turn.action, s.service.handler.queue with
  | .dispatch _, .resCtrlConditionChanged _ :: _ | .dispatch _, .bgTaskStatusChange .. :: _
  | .dispatch _, .processStateChanged .. :: _ => false
  | _, _ => true

/-- The test suffices. -/
theorem keepsRestrictions_of_test (s : Standby) (turn : Turn) (h : restrictionTest s turn = true) :
    KeepsRestrictions s turn := by
  intro p message queue ha hqueue _
  unfold restrictionTest at h
  rw [ha, hqueue] at h
  cases message <;> trivial

/-- Forced sleep up to the phase that starts the restrictions, and the screen is switched on. -/
theorem nothing_restricted_after_screen_on : ∃ s,
    Lts.Reachable (standbySystem sampleConfig sampleStrategies) s ∧
    s.service.curState = .working ∧ s.runningLock.proxied = ∅ ∧ s.network.policy = false := by
  obtain ⟨s, hr, hs⟩ := (standbySystem sampleConfig sampleStrategies).exists_check KeepsRestrictions
    restrictionTest keepsRestrictions_of_test
    (fun s => s.service.handler.queue = [] ∧ s.service.curState = .working)
    (sampleTurns (.initReadyState samplePlatform :: handling .enterForceSleep samplePlatform ++
      [.runTask (.transitToSleepPhase true) samplePlatform] ++ dispatching 3 ++
      handling .screenOn samplePlatform ++ dispatching 2))
    (by decide)
  obtain ⟨hqueue, hcur⟩ := of_decide_eq_true hs
  exact ⟨s, hr.reachable, hcur, nothing_restricted_awake hr hqueue (by rw [hcur]; decide)⟩

/-- Not in every run: a condition change that is handled in SLEEP before the phase that starts the
restrictions leaves an app's running lock proxied. -/
theorem restricted_while_awake : ¬ ∀ (cfg : StandbyConfig) (scfg : StrategyConfig) (s : Standby),
    Lts.Reachable (standbySystem cfg scfg) s → s.service.handler.queue = [] →
      s.service.curState ≠ .sleep → s.runningLock.proxied = ∅ ∧ s.network.policy = false := by
  intro h
  obtain ⟨s, hr, hqueue, hcur, hproxied⟩ :=
    (standbySystem sampleConfig sampleStrategies).exists_run
    (sampleTurns (.initReadyState samplePlatform :: handling .enterForceSleep samplePlatform ++
      [.dayNightSwitch .nightStandby] ++ dispatching 4 ++
      handling .screenOn samplePlatform ++ dispatching 2))
    (Lts.System.runMeets_of_forall (fun _ _ => True) fun _ _ _ => trivial)
    (fun s => s.service.handler.queue = [] ∧ s.service.curState = .working ∧
      (7, 10) ∈ s.runningLock.proxied) (by decide)
  have hempty := (h _ _ s hr hqueue (by rw [hcur]; decide)).1
  rw [hempty] at hproxied
  exact absurd hproxied (Finset.notMem_empty _)

end

end DeviceStandby
