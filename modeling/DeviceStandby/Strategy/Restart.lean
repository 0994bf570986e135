import DeviceStandby.State.Restart
import DeviceStandby.Strategy.Adapter

/-!
# A restart of the service

`UninitReadyState` and `InitReadyState` overtake the messages that `DispatchEvent` has posted. These
are handled in between, when every module is torn down, and neither `Init` resets a flag that they
set. `restart_asFirst_iff` says which messages and which flags a restart bears: the screen must stay
on, or WORKING blocked until the block is lifted, and the network strategy must not be restricting.
-/

namespace DeviceStandby

/-- What the platform answers while one message is handled. -/
structure Answers where
  platform : Platform
  queries : Strategy → Queries

namespace Standby
variable (cfg : StandbyConfig) (scfg : StrategyConfig)

/-- The task of `UninitReadyState`. -/
def uninitReadyState (p : Platform) (s : Standby) : Standby :=
  let s := s.prepare scfg (.uninitReadyState p)
  { s with service := DeviceStandby.uninitReadyState cfg p s.service }

/-- The task of `InitReadyState`, whatever tasks are left of an earlier one. -/
def initReadyState (p : Platform) (s : Standby) : Standby :=
  let s := s.prepare scfg (.initReadyState p)
  { s with service := DeviceStandby.initReadyState cfg p s.service }

/-- The handler runs the first message of the queue, if there is one. -/
def dispatch (answers : Answers) (s : Standby) : Standby :=
  (s.act cfg scfg ⟨.dispatch answers.platform, answers.queries⟩).getD s

/-- The handler runs the first messages of the queue. -/
def dispatchFirst : Nat → (Nat → Answers) → Standby → Standby
  | 0, _, s => s
  | n + 1, answers, s =>
    dispatchFirst n (fun i => answers (i + 1)) (s.dispatch cfg scfg (answers 0))

/-- `UninitReadyState`, the messages that had been posted when it ran, and `InitReadyState`. -/
def restart (p p' : Platform) (answers : Nat → Answers) (s : Standby) : Standby :=
  ((s.uninitReadyState cfg scfg p).dispatchFirst cfg scfg s.service.handler.queue.length
    answers).initReadyState cfg scfg p'

end Standby

/-- The managers and the strategies are as a first initialisation leaves them. -/
structure AsFirst (p : Platform) (s : Standby) : Prop where
  alive : s.service.crashed = false
  curState : s.service.curState = .working
  preState : s.service.preState = .working
  isScreenOn : s.service.isScreenOn = p.isScreenOn
  isBlocked : s.service.isBlocked = false
  isEvalution : s.service.isEvalution = false
  isEvaluation : s.service.constraintManager.isEvaluation = false
  control : s.service.halfHour.scrOffHalfHourCtrl = false
  network : s.network.isFirewallEnabled = false ∧ s.network.isIdleMaintence = false
  runningLock : s.runningLock.isProxied = false ∧ s.runningLock.isIdleMaintence = false

/-- The network strategy does not restrict, no evaluation runs that the way to WORKING does not
stop, the stopped service bears every message in the queue, and a block that the way to WORKING
does not lift is lifted by one of them. -/
structure RestartsAsFirst (s : Standby) : Prop where
  network : s.network.isFirewallEnabled = false ∧ s.network.isIdleMaintence = false
  evaluation : s.service.isEvalution = true →
    s.service.curState ≠ .working ∧ s.service.curState ≠ .maintenance
  borne : BorneInTurn s.service.isScreenOn
    (s.service.isBlocked && s.service.curState == .maintenance) s.service.handler.queue
  unblocked : s.service.isBlocked = true → s.service.curState = .maintenance →
    ∃ message ∈ s.service.handler.queue, message.wakes = true

section
variable {cfg : StandbyConfig} {scfg : StrategyConfig} {s t : Standby} {answers : Answers}

/-! ## The strategies -/

/-- What creating and destroying leave alone of the network strategy. -/
def NetworkStrategy.SameFlags (s t : NetworkStrategy) : Prop :=
  t.isFirewallEnabled = s.isFirewallEnabled ∧ t.isIdleMaintence = s.isIdleMaintence

/-- The start of the strategies does not reset the flags of the network strategy. -/
theorem init_sameFlags (scfg : StrategyConfig) (s : Standby) :
    s.network.SameFlags (StrategyManagerAdapter.init scfg s).network := by
  unfold StrategyManagerAdapter.init
  dsimp only
  rw [Standby.forEach_eq]
  have hcreated : ∀ n : NetworkStrategy, s.network.SameFlags n →
      s.network.SameFlags n.onCreated := fun _ hn => hn
  exact Function.Iterate.rec s.network.SameFlags ⟨rfl, rfl⟩ hcreated _

/-- Nor does their stop. -/
theorem unInit_sameFlags (s : Standby) :
    s.network.SameFlags (StrategyManagerAdapter.unInit s).network := by
  unfold StrategyManagerAdapter.unInit
  rw [Standby.forEach_eq]
  have hdestroyed : ∀ n : NetworkStrategy, s.network.SameFlags n →
      s.network.SameFlags n.onDestroy := fun _ hn => hn
  exact Function.Iterate.rec s.network.SameFlags ⟨rfl, rfl⟩ hdestroyed _

/-- The strategies' messages go to the queue and the history, and nothing else changes. -/
theorem flush_frame (s : Standby) : ∃ messages trace,
    s.flush =
      { s with
        service := { s.service with
          handler.queue := s.service.handler.queue ++ messages
          trace := trace }
        network.posted := [] } := by
  have hservice : ∃ messages trace, s.flush.service =
      { s.service with
        handler.queue := s.service.handler.queue ++ messages
        trace := trace } := by
    refine Standby.flush_service (I := fun service => ∃ messages trace, service =
      { s.service with
        handler.queue := s.service.handler.queue ++ messages
        trace := trace }) ⟨[], s.service.trace, by rw [List.append_nil]⟩ ?_
    rintro _ status ⟨messages, trace, rfl⟩
    unfold Service.dispatchEvent
    split_ifs
    · exact ⟨messages ++ [.deviceNetIdlePolicyTransit status], _, by rw [List.append_assoc]⟩
    · exact ⟨messages, _, rfl⟩
  obtain ⟨messages, trace, h⟩ := hservice
  exact ⟨messages, trace, by rw [← h]; rfl⟩

/-- A service that is not ready drops them. -/
theorem flush_of_not_ready (h : s.service.isServiceReady = false) :
    s.flush = { s with network.posted := [] } := by
  have hservice : s.flush.service = s.service :=
    Standby.flush_service (I := fun service => service = s.service) rfl fun service status heq => by
      subst heq
      unfold Service.dispatchEvent
      rw [if_neg (by rw [h]; decide), if_neg (by rw [h]; decide)]
  show { s with service := s.flush.service, network.posted := [] } = _
  rw [hservice]

/-! ## Messages without strategies -/

/-- Nothing is registered. -/
structure Unregistered (s : Standby) : Prop where
  strategyList : s.strategyList = []
  posted : s.network.posted = []

/-- Nothing is posted where nothing is waiting. -/
theorem flush_of_nil (h : s.network.posted = []) : s.flush = s := by
  obtain ⟨service, strategyList, network, runningLock⟩ := s
  cases network
  cases h
  rfl

/-- What a list of no strategies leaves of handling a message. -/
theorem dispatch_cons {message : StandbyMessage} {queue : List StandbyMessage}
    (h : Unregistered s) (hqueue : s.service.handler.queue = message :: queue) :
    s.dispatch cfg scfg answers =
      { s with
        service := handleEvent cfg answers.platform message
          { s.service with handler.queue := queue } } := by
  simp only [Standby.dispatch, Standby.act, hqueue, DeviceStandby.act, List.head?_cons,
    Option.bind_eq_bind, Option.bind_some, Option.pure_def, Option.getD_some,
    StrategyManagerAdapter.handleEvent, h.strategyList, Standby.forEach, List.foldl_nil]
  exact flush_of_nil h.posted

/-- Handling messages registers nothing and leaves the strategies alone. -/
theorem dispatch_unregistered (cfg : StandbyConfig) (scfg : StrategyConfig) (answers : Answers)
    (h : Unregistered s) :
    ∃ service, s.dispatch cfg scfg answers = { s with service := service } := by
  cases hqueue : s.service.handler.queue with
  | nil =>
    refine ⟨s.service, ?_⟩
    simp [Standby.dispatch, Standby.act, hqueue]
  | cons message queue => exact ⟨_, dispatch_cons h hqueue⟩

/-- While no strategy is registered, messages reach the service only. -/
theorem dispatchFirst_unregistered (cfg : StandbyConfig) (scfg : StrategyConfig) (n : Nat)
    (answers : Nat → Answers) (h : Unregistered s) :
    ∃ service, s.dispatchFirst cfg scfg n answers = { s with service := service } := by
  induction n generalizing s answers with
  | zero => exact ⟨s.service, rfl⟩
  | succ n ih =>
    obtain ⟨service, hfirst⟩ := dispatch_unregistered cfg scfg (answers 0) h
    obtain ⟨service', hrest⟩ := ih (s := { s with service := service })
      (fun i => answers (i + 1)) ⟨h.strategyList, h.posted⟩
    rw [Standby.dispatchFirst, hfirst, hrest]
    exact ⟨service', rfl⟩

/-- A stopped service bears the first messages of the queue, each in its turn. -/
theorem dispatchFirst_borne (cfg : StandbyConfig) (scfg : StrategyConfig)
    {messages queue : List StandbyMessage} (answers : Nat → Answers)
    (h : Unregistered s) (hstopped : Stopped s.service)
    (hqueue : s.service.handler.queue = messages ++ queue)
    (hborne : BorneInTurn s.service.isScreenOn s.service.isBlocked messages) :
    Undisturbed messages { s.service with handler.queue := queue }
      (s.dispatchFirst cfg scfg messages.length answers).service := by
  induction messages generalizing s answers with
  | nil =>
    rw [List.nil_append] at hqueue
    subst hqueue
    exact .nil hstopped
  | cons message messages ih =>
    obtain ⟨hhead, htail⟩ := borneInTurn_cons.1 hborne
    have hstart : Stopped { s.service with handler.queue := messages ++ queue } :=
      ⟨hstopped.1, hstopped.2, hstopped.3, hstopped.4, hstopped.5, hstopped.6⟩
    have hfirst := hstart.undisturbed cfg (answers 0).platform hhead
    rw [List.length_cons, Standby.dispatchFirst, dispatch_cons h hqueue]
    generalize handleEvent cfg (answers 0).platform message
      { s.service with handler.queue := messages ++ queue } = handled at hfirst ⊢
    have hrest := ih (s := { s with service := handled }) (fun i => answers (i + 1))
      ⟨h.strategyList, h.posted⟩ hfirst.stopped hfirst.queue (by
        rw [hfirst.isScreenOn, hfirst.isBlocked]
        simpa using htail)
    exact (hfirst.of_queue queue).trans hrest

/-- A message that it does not bear spoils it for the rest of the queue. -/
theorem Spoiled.dispatch (cfg : StandbyConfig) (scfg : StrategyConfig) (answers : Answers)
    (h : Unregistered s) (hspoiled : Spoiled s.service) :
    Spoiled (s.dispatch cfg scfg answers).service := by
  cases hqueue : s.service.handler.queue with
  | nil =>
    rw [show s.dispatch cfg scfg answers = s by simp [Standby.dispatch, Standby.act, hqueue]]
    exact hspoiled
  | cons message queue =>
    rw [dispatch_cons h hqueue]
    refine Spoiled.of_handleEvent cfg _ message ?_
    refine hspoiled.imp id fun ⟨hstopped, hev⟩ => ⟨?_, hev⟩
    exact ⟨hstopped.1, hstopped.2, hstopped.3, hstopped.4, hstopped.5, hstopped.6⟩

/-- A service that is spoiled stays spoiled. -/
theorem Spoiled.dispatchFirst (n : Nat) (answers : Nat → Answers) (h : Unregistered s)
    (hspoiled : Spoiled s.service) :
    Spoiled (s.dispatchFirst cfg scfg n answers).service := by
  induction n generalizing s answers with
  | zero => exact hspoiled
  | succ n ih =>
    have hfirst := hspoiled.dispatch cfg scfg (answers 0) h
    obtain ⟨service, hservice⟩ := dispatch_unregistered cfg scfg (answers 0) h
    rw [hservice] at hfirst
    rw [Standby.dispatchFirst, hservice]
    exact ih (fun i => answers (i + 1)) ⟨h.strategyList, h.posted⟩ hfirst

/-- A queue that is not borne spoils the service. -/
theorem dispatchFirst_spoiled (cfg : StandbyConfig) (scfg : StrategyConfig)
    {messages queue : List StandbyMessage} (answers : Nat → Answers)
    (h : Unregistered s) (hstopped : Stopped s.service)
    (hqueue : s.service.handler.queue = messages ++ queue)
    (hnot : ¬ BorneInTurn s.service.isScreenOn s.service.isBlocked messages) :
    Spoiled (s.dispatchFirst cfg scfg messages.length answers).service := by
  induction messages generalizing s answers with
  | nil => exact absurd borneInTurn_nil hnot
  | cons message messages ih =>
    have hstart : Stopped { s.service with handler.queue := messages ++ queue } :=
      ⟨hstopped.1, hstopped.2, hstopped.3, hstopped.4, hstopped.5, hstopped.6⟩
    rw [List.length_cons, Standby.dispatchFirst, dispatch_cons h hqueue]
    by_cases hhead : message.Borne s.service.isScreenOn s.service.isBlocked
    · have hfirst := hstart.undisturbed cfg (answers 0).platform hhead
      generalize handleEvent cfg (answers 0).platform message
        { s.service with handler.queue := messages ++ queue } = handled at hfirst ⊢
      refine ih (s := { s with service := handled }) (fun i => answers (i + 1))
        ⟨h.strategyList, h.posted⟩ hfirst.stopped hfirst.queue fun htail => ?_
      rw [hfirst.isScreenOn, hfirst.isBlocked] at htail
      exact hnot (borneInTurn_cons.2 ⟨hhead, by simpa using htail⟩)
    · exact (hstart.spoiled cfg (answers 0).platform hhead).dispatchFirst _ _
        ⟨h.strategyList, h.posted⟩

/-! ## Stop and start -/

/-- Stopping the service destroys the strategies, whose messages go to the end of the queue. -/
theorem uninitReadyState_spec (p : Platform) (h : Lts.Reachable (standbySystem cfg scfg) s)
    (hready : s.service.isServiceReady = true) :
    Unregistered (s.uninitReadyState cfg scfg p) ∧
      StoppedFrom s.service (s.uninitReadyState cfg scfg p).service ∧
      s.network.SameFlags (s.uninitReadyState cfg scfg p).network ∧
      (s.uninitReadyState cfg scfg p).runningLock.isProxied = false ∧
      (s.uninitReadyState cfg scfg p).runningLock.isIdleMaintence = false := by
  obtain ⟨_, hled⟩ := led_reachable h
  obtain ⟨messages, trace, hflush⟩ := flush_frame (StrategyManagerAdapter.unInit s)
  have hprepare : s.prepare scfg (.uninitReadyState p) = (StrategyManagerAdapter.unInit s).flush :=
    if_pos hready
  have hbasic : Basic s.service := basic_reachable hled.reachable
  have hlifted := working_lifted hled.reachable
  have hstopped := uninitReadyState_stopped cfg p
    (s := { s.service with handler.queue := s.service.handler.queue ++ messages, trace := trace })
    ⟨hbasic.1, hbasic.2, hbasic.3, hbasic.4, hbasic.5, hbasic.6⟩ hready
    hlifted
  obtain ⟨messages', hposted⟩ := hstopped.posted
  simp only [Standby.uninitReadyState, hprepare, hflush, unInit_service]
  refine ⟨⟨rfl, rfl⟩, ?_, unInit_sameFlags s, unInit_free hled.runningLockOff⟩
  exact { hstopped with
    posted := ⟨messages ++ messages', by rw [hposted, List.append_assoc]⟩ }

/-- Starting the service creates the strategies, whose messages are dropped, and the managers. -/
theorem initReadyState_of_not_ready (cfg : StandbyConfig) (scfg : StrategyConfig) (p : Platform)
    (hready : s.service.isServiceReady = false) :
    s.initReadyState cfg scfg p = { StrategyManagerAdapter.init scfg s with
      service := DeviceStandby.initReadyState cfg p s.service
      network.posted := [] } := by
  have hprepare : s.prepare scfg (.initReadyState p) = (StrategyManagerAdapter.init scfg s).flush :=
    if_neg (by rw [hready]; decide)
  have hflush := flush_of_not_ready (s := StrategyManagerAdapter.init scfg s)
    (by rw [init_service]; exact hready)
  simp only [Standby.initReadyState, hprepare, hflush, init_service]

/-- It resets no flag. -/
theorem initReadyState_asFirst (cfg : StandbyConfig) (scfg : StrategyConfig) (p : Platform)
    (hready : s.service.isServiceReady = false) :
    AsFirst p (s.initReadyState cfg scfg p) ↔
      s.service.crashed = false ∧ s.service.isBlocked = false ∧ s.service.isEvalution = false ∧
        s.service.constraintManager.isEvaluation = false ∧
        s.service.halfHour.scrOffHalfHourCtrl = false ∧
        (s.network.isFirewallEnabled = false ∧ s.network.isIdleMaintence = false) ∧
        s.runningLock.isProxied = false ∧ s.runningLock.isIdleMaintence = false := by
  obtain ⟨hfirewall, hidle⟩ := init_sameFlags scfg s
  obtain ⟨hproxied, hmaint⟩ := init_sameMode scfg s
  obtain ⟨_, _, hinit⟩ := initReadyState_frame cfg p hready
  rw [initReadyState_of_not_ready cfg scfg p hready, hinit]
  constructor
  · intro h
    exact ⟨h.alive, h.isBlocked, h.isEvalution, h.isEvaluation, h.control,
      ⟨hfirewall ▸ h.network.1, hidle ▸ h.network.2⟩, hproxied ▸ h.runningLock.1,
      hmaint ▸ h.runningLock.2⟩
  · rintro ⟨h1, h2, h3, h4, h5, ⟨h6, h7⟩, h8, h9⟩
    exact ⟨h1, rfl, rfl, rfl, h2, h3, h4, h5, ⟨hfirewall.trans h6, hidle.trans h7⟩,
      hproxied.trans h8, hmaint.trans h9⟩

/-- Nor does it bring a process back that has ended. -/
theorem initReadyState_spoiled (p : Platform) (h : Spoiled s.service) :
    ¬ AsFirst p (s.initReadyState cfg scfg p) := by
  intro hfirst
  cases hready : s.service.isServiceReady with
  | true =>
    have hcrashed : s.service.crashed = true := h.resolve_right fun hstopped => by
      rw [hstopped.1.ready] at hready
      cases hready
    have hprepare : s.prepare scfg (.initReadyState p) = s := if_pos hready
    have halive := hfirst.alive
    simp only [Standby.initReadyState, hprepare, initReadyState_of_ready hready] at halive
    rw [hcrashed] at halive
    cases halive
  | false =>
    obtain ⟨hcrashed, -, hev, -⟩ := (initReadyState_asFirst cfg scfg p hready).1 hfirst
    rcases h with h | ⟨-, h⟩
    · rw [hcrashed] at h
      cases h
    · rw [hev] at h
      cases h

/-- For every reachable state of a ready service and whatever the platform answers: a restart
leaves the managers and the strategies as a first initialisation does, and the process alive, if
and only if the messages that were posted before it and the flags bear it. -/
theorem restart_asFirst_iff (h : Lts.Reachable (standbySystem cfg scfg) s)
    (hready : s.service.isServiceReady = true) (p p' : Platform) (answers : Nat → Answers) :
    AsFirst p' (s.restart cfg scfg p p' answers) ↔ RestartsAsFirst s := by
  obtain ⟨hunregistered, hstopped, ⟨hfirewall, hidle⟩, hfree⟩ := uninitReadyState_spec p h hready
  obtain ⟨_, hled⟩ := led_reachable h
  have halive : s.service.crashed = false := alive_of_reachable hled.reachable
  obtain ⟨messages, hqueue⟩ := hstopped.posted
  obtain ⟨service, hservice⟩ := dispatchFirst_unregistered cfg scfg
    s.service.handler.queue.length answers hunregistered
  unfold Standby.restart
  by_cases hborne : BorneInTurn s.service.isScreenOn
    (s.service.isBlocked && s.service.curState == .maintenance) s.service.handler.queue
  · have hbears := dispatchFirst_borne cfg scfg answers hunregistered
      hstopped.stopped hqueue (by rw [hstopped.isScreenOn, hstopped.isBlocked]; exact hborne)
    rw [hservice] at hbears ⊢
    rw [initReadyState_asFirst cfg scfg p' hbears.stopped.ready]
    have hblocked : service.isBlocked = (s.service.isBlocked &&
        s.service.curState == .maintenance && !s.service.handler.queue.any (·.wakes)) :=
      hbears.isBlocked.trans (by rw [← hstopped.isBlocked])
    have hev : service.isEvalution = (s.service.isEvalution &&
        (s.service.curState == .working || s.service.curState == .maintenance)) :=
      hbears.isEvalution.trans hstopped.isEvalution
    constructor
    · rintro ⟨-, hunblocked, hidleEval, -, -, ⟨hoff, hoff'⟩, -⟩
      rw [hblocked] at hunblocked
      rw [hev] at hidleEval
      exact {
        network := ⟨hfirewall.symm.trans hoff, hidle.symm.trans hoff'⟩
        evaluation := fun hset => by simpa [hset] using hidleEval
        borne := hborne
        unblocked := fun hset hcur => by simpa [hset, hcur] using hunblocked }
    · intro hrestarts
      refine ⟨hbears.crashed.trans (hstopped.crashed.trans halive), ?_, ?_,
        hbears.isEvaluation.trans hstopped.isEvaluation, hbears.control.trans hstopped.control,
        ⟨hfirewall.trans hrestarts.network.1, hidle.trans hrestarts.network.2⟩, hfree⟩
      · rw [hblocked]
        cases hset : s.service.isBlocked with
        | false => rfl
        | true =>
          by_cases hcur : s.service.curState = .maintenance
          · simpa [hcur] using hrestarts.unblocked hset hcur
          · rw [beq_false_of_ne hcur]
            rfl
      · rw [hev]
        cases hset : s.service.isEvalution with
        | false => rfl
        | true => simpa using hrestarts.evaluation hset
  · have hspoiled := dispatchFirst_spoiled cfg scfg answers hunregistered
      hstopped.stopped hqueue (by rw [hstopped.isScreenOn, hstopped.isBlocked]; exact hborne)
    exact iff_of_false (initReadyState_spoiled p' hspoiled) fun hrestarts => hborne hrestarts.borne

/-! ## Concrete restarts -/

/-- Every platform call of a restart succeeds. -/
def sampleAnswers (_ : Nat) : Answers := ⟨samplePlatform, fun _ => sampleQueries⟩

/-- The screen went off and DARK was entered; it goes on again just before the restart. -/
theorem restart_asFirst_screenOn : ∃ s,
    Lts.Reachable (standbySystem sampleConfig sampleStrategies) s ∧
    s.service.handler.queue = [.stateTransit .working .dark, .commonEvent .screenOn] ∧
    AsFirst samplePlatform
      (s.restart sampleConfig sampleStrategies samplePlatform samplePlatform sampleAnswers) := by
  obtain ⟨s, hr, hready, hqueue, hcur, hblocked, hnetwork⟩ :=
    (standbySystem sampleConfig sampleStrategies).exists_run
    (sampleTurns (.initReadyState samplePlatform :: handling .screenOff samplePlatform ++
      [.post (.commonEvent .screenOn)]))
    (Lts.System.runMeets_of_forall (fun _ _ => True) fun _ _ _ => trivial)
    (fun s => s.service.isServiceReady = true ∧
      s.service.handler.queue = [.stateTransit .working .dark, .commonEvent .screenOn] ∧
      s.service.curState = .dark ∧ s.service.isBlocked = false ∧
      s.network.isFirewallEnabled = false ∧ s.network.isIdleMaintence = false) (by decide)
  refine ⟨s, hr, hqueue, (restart_asFirst_iff hr hready _ _ _).2 {
    network := hnetwork
    evaluation := fun _ => by rw [hcur]; decide
    borne := ?_
    unblocked := fun h => by
      rw [hblocked] at h
      cases h }⟩
  rw [hqueue, borneInTurn_cons, borneInTurn_cons]
  refine ⟨?_, ?_, borneInTurn_nil⟩
  · rintro _ ⟨⟩
  · rintro _ ⟨⟩
    exact ⟨rfl, .inl rfl⟩

/-- Not every restart does so: the screen goes off just before, and the request for DARK begins an
evaluation that is never ended. -/
theorem restart_not_always_asFirst : ¬ ∀ (cfg : StandbyConfig) (scfg : StrategyConfig)
    (s : Standby), Lts.Reachable (standbySystem cfg scfg) s → s.service.isServiceReady = true →
      ∀ (p p' : Platform) (answers : Nat → Answers),
        AsFirst p' (s.restart cfg scfg p p' answers) := by
  intro h
  obtain ⟨s, hr, hready, hstuck⟩ := (standbySystem sampleConfig sampleStrategies).exists_run
    (sampleTurns [.initReadyState samplePlatform, .post (.commonEvent .screenOff)])
    (Lts.System.runMeets_of_forall (fun _ _ => True) fun _ _ _ => trivial)
    (fun s => s.service.isServiceReady = true ∧
      (s.restart sampleConfig sampleStrategies samplePlatform samplePlatform
        sampleAnswers).service.isEvalution = true) (by decide)
  have hclear := (h _ _ s hr hready samplePlatform samplePlatform sampleAnswers).isEvalution
  rw [hstuck] at hclear
  cases hclear

end

end DeviceStandby
