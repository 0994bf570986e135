import DeviceStandby.State.Evaluation

/-!
# The transition timers

DARK, NAP and MAINTENANCE are left by a one-shot timer: its callback posts a task, and the task asks
for the next state. When the request is absorbed (the state is blocked, or a phase of NAP takes the
result for its own) nothing arms the timer again. `transition_pending` says which steps a run must
avoid for the way out to stay pending.
-/

namespace DeviceStandby

/-- The states that a timer is to end. -/
def StandbyState.Due (cfg : StandbyConfig) : StandbyState → Prop
  | .dark => cfg.darkNextState ≠ .dark
  | .nap => cfg.sleepSwitch = true
  | .maintenance => True
  | .working | .sleep => False

/-- The transition timer of a state is armed, its callback has been delivered, or its task is
pending. -/
def TimeoutPending (state : StandbyState) (s : Service) : Prop :=
  s.timeService.Started (.startTransitNextState state) ∨
    .startTransitNextState state ∈ s.timeService.callbacks ∨
    .transitNextState state ∈ s.handler.tasks

/-- NAP is past its last phase and waits for a motion monitor, whose total timeout is pending and
asks for SLEEP. -/
structure Deciding (s : Service) : Prop where
  curState : s.curState = .nap
  curPhase : s.napState.curPhase = NapStatePhase.END
  isEvalution : s.isEvalution = true
  timeout : .motionTotalTimeOut ∈ s.handler.tasks

/-- A state that a timer is to end has its way out pending. -/
def TransitionPending (cfg : StandbyConfig) (s : Service) : Prop :=
  s.curState.Due cfg → TimeoutPending s.curState s ∨ Deciding s

/-- A transition task that asks for `nextState` leaves the current state as it is, with no timer
armed. -/
def Absorbs (cfg : StandbyConfig) (p : Platform) (nextState : StandbyState) (s : Service) : Prop :=
  match s.curState with
  | .dark => nextState = .dark ∨ nextState = .maintenance ∨
      (s.isBlocked = true ∧ nextState ≠ .working)
  | .nap => nextState = .nap ∨ (nextState = .sleep ∧
      if s.isBlocked then
        (calculateMaintTimeOut p cfg.napMaintDuration s.napState.maintIntervalIndex true).1 ≤ 0
      else s.napState.curPhase ≠ NapStatePhase.END)
  | .maintenance => nextState = .maintenance ∨ nextState = .dark
  | .working | .sleep => False

/-- The step does not lose the way out of a state: its transition task, when it is the last thing
pending, is not absorbed, and NAP comes back from MAINTENANCE with a window ahead. -/
structure KeepsTransition (cfg : StandbyConfig) (s : Service) (a : Action) : Prop where
  absorbed : ∀ state p, a = .runTask (.transitNextState state) p → s.curState.Due cfg →
    ¬ TimeoutPending s.curState
      { s with handler.tasks := s.handler.tasks.erase (.transitNextState state) } →
    ¬ Absorbs cfg p (nextStateOf cfg state s) s
  resumed : ∀ state p, a = .runTask (.transitNextState state) p → s.curState = .maintenance →
    nextStateOf cfg state s = .nap → cfg.sleepSwitch = true →
    (calculateMaintTimeOut p cfg.napMaintDuration s.napState.maintIntervalIndex false).1 ≠ 0

/-- NAP is to be left when SLEEP is enabled. -/
def NapLeads (cfg : StandbyConfig) (s : Service) : Prop :=
  cfg.sleepSwitch = true → s.curState = .nap → s.napState.nextState ≠ .nap

section
variable {cfg : StandbyConfig} {a : Action} {p : Platform} {s t : Service}
  {state nextState : StandbyState} {action : CommonEvent} {evalResult : Bool}

/-- In every run NAP is to be left when SLEEP is enabled. -/
theorem napLeads_reachable {ok : Service → Action → Prop}
    (h : Lts.ReachableUnder (system cfg) ok s) : NapLeads cfg s :=
  run_invariant (I := NapLeads cfg) (fun _ hcur => nomatch hcur)
    (fun _ _ _ _ he halive hi hswitch hcur => by
      rcases he.outcome.napDue halive hswitch hcur with hnext | ⟨hcur, hsame⟩
      · exact hnext
      · rw [hsame]
        exact hi hswitch hcur) h

/-! ## What keeps a timeout pending -/

/-- A write that stops no transition timer and removes no transition task. -/
theorem TimeoutPending.of_le (h : TimeoutPending state s)
    (htimer : t.timeService.enterStandbyTimer = s.timeService.enterStandbyTimer)
    (hcallbacks : .startTransitNextState state ∈ s.timeService.callbacks →
      .startTransitNextState state ∈ t.timeService.callbacks)
    (htasks : .transitNextState state ∈ s.handler.tasks →
      .transitNextState state ∈ t.handler.tasks) : TimeoutPending state t := by
  refine h.imp (fun hst => ?_) (Or.imp hcallbacks htasks)
  simpa only [TimeService.Started, htimer] using hst

/-- A timer that has been started. -/
theorem TimeoutPending.start (hstart : p.startTimer state = true) (t : Int) :
    TimeoutPending state (startStateTransitionTimer p state t s) := by
  left
  simp [TimeService.Started, startStateTransitionTimer, hstart]

/-- Outside of the states that a timer is to end. -/
theorem TransitionPending.of_not_due (h : ¬ t.curState.Due cfg) : TransitionPending cfg t :=
  fun hdue => absurd hdue h

/-- A write that leaves the current state and its way out alone. -/
theorem TransitionPending.of_le (h : TransitionPending cfg s) (hcur : t.curState = s.curState)
    (htimer : t.timeService.enterStandbyTimer = s.timeService.enterStandbyTimer)
    (hcallbacks : ∀ state, .startTransitNextState state ∈ s.timeService.callbacks →
      .startTransitNextState state ∈ t.timeService.callbacks)
    (hphase : t.napState.curPhase = s.napState.curPhase)
    (hev : s.isEvalution = true → t.isEvalution = true)
    (htasks : ∀ task ∈ s.handler.tasks, task ∈ t.handler.tasks) : TransitionPending cfg t := by
  intro hdue
  rw [hcur] at hdue ⊢
  refine (h hdue).imp (fun h => h.of_le htimer (hcallbacks _) (htasks _)) fun h => ?_
  exact ⟨hcur.trans h.curState, hphase.trans h.curPhase, hev h.isEvalution, htasks _ h.timeout⟩

/-- The same, where nothing changes but what the way out does not read. -/
theorem TransitionPending.of_eq (h : TransitionPending cfg s) (hcur : t.curState = s.curState)
    (htime : t.timeService = s.timeService) (hnap : t.napState = s.napState)
    (hev : t.isEvalution = s.isEvalution) (htasks : t.handler.tasks = s.handler.tasks) :
    TransitionPending cfg t :=
  h.of_le hcur (by rw [htime]) (fun _ hmem => by rwa [htime]) (by rw [hnap]) (fun h => hev.trans h)
    fun _ hmem => by rwa [htasks]

/-! ## Beginning a state -/

/-- A state that a timer is to end arms it when it begins. -/
theorem beginState_pending (hstart : ∀ state, p.startTimer state = true) (hdue : state.Due cfg)
    (hresume : state = .nap → s.preState = .maintenance →
      (calculateMaintTimeOut p cfg.napMaintDuration s.napState.maintIntervalIndex false).1 ≠ 0) :
    TimeoutPending state (beginState cfg p state s) := by
  cases state with
  | working | sleep => exact hdue.elim
  | dark =>
    simp only [beginState, DarkState.beginState, if_pos (show cfg.darkNextState ≠ .dark from hdue)]
    exact .start (hstart _) _
  | nap =>
    simp only [beginState, NapState.beginState]
    by_cases hpre : s.preState = .maintenance
    · rw [if_pos hpre, if_pos (hresume rfl hpre)]
      exact .start (hstart _) _
    · rw [if_neg hpre, if_pos (show cfg.sleepSwitch = true from hdue)]
      exact TimeoutPending.of_le (.start (hstart _) _) rfl id fun h => List.mem_append_left _ h
  | maintenance => exact .start (hstart _) _

/-- A transition to a state that a timer is to end arms it. -/
theorem transit_pending (hstart : ∀ state, p.startTimer state = true)
    (hresume : nextState = .nap → s.curState = .maintenance → cfg.sleepSwitch = true →
      (calculateMaintTimeOut p cfg.napMaintDuration s.napState.maintIntervalIndex false).1 ≠ 0)
    (halive : (transitToStateInner cfg p nextState s).crashed = false) :
    TransitionPending cfg (transitToStateInner cfg p nextState s) := by
  intro hdue
  left
  obtain ⟨_, _, hrep⟩ := replaceState_frame cfg nextState s
  rw [transitToStateInner_eq (transitToStateInner_alive halive).2]
  have hcur : (transitToStateInner cfg p nextState s).curState = nextState := by simp
  rw [hcur] at hdue
  have hbegin : TimeoutPending nextState
      (beginState cfg p nextState (replaceState cfg nextState s)) := by
    refine beginState_pending hstart hdue fun hnap hpre => ?_
    rw [hrep] at hpre ⊢
    exact hresume hnap hpre (by subst hnap; exact hdue)
  have hcur' :
      (beginState cfg p nextState (replaceState cfg nextState s)).curState = nextState := by
    simp [hrep]
  simp only [sendNotification, if_true, Service.dispatchEvent, Service.releaseStandbyRunningLock,
    hcur']
  exact hbegin

/-! ## Blocking a state -/

/-- A blocked NAP arms the timer of its maintenance window, if one is ahead. -/
theorem blockCurrentState_nap (hstart : ∀ state, p.startTimer state = true)
    (hcur : s.curState = .nap)
    (hahead : 0 < (calculateMaintTimeOut p cfg.napMaintDuration s.napState.maintIntervalIndex
      true).1) : TimeoutPending .nap (blockCurrentState cfg p s) := by
  simp only [blockCurrentState, hcur, NapState.onStateBlocked, gt_iff_lt, hahead, if_true]
  exact TimeoutPending.of_le (.start (hstart _) _) rfl id id

/-- Blocking a state keeps its way out. -/
theorem TransitionPending.block (h : TransitionPending cfg s)
    (hstart : ∀ state, p.startTimer state = true) :
    TransitionPending cfg (blockCurrentState cfg p s) := by
  by_cases hahead : s.curState = .nap ∧ 0 < (calculateMaintTimeOut p cfg.napMaintDuration
      s.napState.maintIntervalIndex true).1
  · intro _
    rw [blockCurrentState_curState, hahead.1]
    exact .inl (blockCurrentState_nap hstart hahead.1 hahead.2)
  · have htime : (blockCurrentState cfg p s).timeService = s.timeService := by
      unfold blockCurrentState NapState.onStateBlocked
      dsimp only
      split
      · rename_i hcur
        rw [if_neg fun hlt => hahead ⟨hcur, hlt⟩]
        rfl
      · rfl
    obtain ⟨_, _, _, hf⟩ := blockCurrentState_frame cfg p s
    refine h.of_le ?_ ?_ (fun _ hmem => ?_) ?_ ?_ ?_
    · rw [hf]
    · rw [htime]
    · rwa [htime]
    · rw [hf]
    · rw [hf]
      exact id
    · rw [hf]
      exact fun _ hmem => hmem

/-! ## Evaluations -/

/-- Setting the task of the next phase removes no task. -/
theorem mem_setPhaseTransitTask_of_mem (evalResult : Bool) {task : Task}
    (h : task ∈ s.handler.tasks) :
    task ∈ (NapState.setPhaseTransitTask evalResult s).handler.tasks := by
  unfold NapState.setPhaseTransitTask
  dsimp only
  split_ifs
  all_goals first | exact h | exact List.mem_append_left _ h

/-- A phase of NAP leaves its timer alone. -/
theorem TimeoutPending.setPhaseTransitTask (h : TimeoutPending state s) :
    TimeoutPending state (NapState.setPhaseTransitTask evalResult s) := by
  have htasks : .transitNextState state ∈ s.handler.tasks → .transitNextState state ∈
      (NapState.setPhaseTransitTask evalResult s).handler.tasks :=
    mem_setPhaseTransitTask_of_mem evalResult
  obtain ⟨_, _, _, hf⟩ := NapState.setPhaseTransitTask_frame evalResult s
  rw [hf] at htasks ⊢
  exact h.of_le rfl id htasks

/-- A state takes a result for its way out, or has it pending: NAP past its last phase leaves on any
result, and DARK on a success. -/
def LeavesOn (cfg : StandbyConfig) (s : Service) (evalResult : Bool) : Prop :=
  s.curState.Due cfg → TimeoutPending s.curState s ∨
    (s.curState = .nap ∧ s.napState.curPhase = NapStatePhase.END) ∨
    (s.curState = .dark ∧ evalResult = true)

/-- The current state takes a result. -/
theorem stateEndEval_pending (hstart : ∀ state, p.startTimer state = true)
    (hleads : NapLeads cfg s) (h : LeavesOn cfg s evalResult)
    (halive : (stateEndEval cfg p evalResult s).crashed = false) :
    TransitionPending cfg (stateEndEval cfg p evalResult s) := by
  unfold LeavesOn at h
  unfold stateEndEval at halive ⊢
  cases hcur : s.curState with
  | working =>
    simp only [hcur, WorkingState.endEvalCurrentState] at halive ⊢
    split_ifs at halive ⊢
    · exact transit_pending hstart (by rintro ⟨⟩) halive
    · exact .of_not_due (by rw [blockCurrentState_curState, hcur]; exact id)
  | dark =>
    simp only [hcur, DarkState.endEvalCurrentState] at halive h ⊢
    split_ifs at halive ⊢ with hres hnext
    · exact transit_pending hstart (fun _ hm => by rw [hcur] at hm; cases hm) halive
    · exact .of_not_due (by rw [hcur]; exact hnext)
    · refine TransitionPending.block (fun hdue => .inl ?_) hstart
      rw [hcur] at hdue ⊢
      rcases h hdue with hp | ⟨hn, -⟩ | ⟨-, htrue⟩
      · exact hp
      · cases hn
      · exact absurd htrue hres
  | nap =>
    simp only [hcur, NapState.endEvalCurrentState, NapState.handleEvalResToSleepState] at halive h ⊢
    split_ifs at halive ⊢ with hphase hres hnext
    · exact .of_not_due (by simp [StandbyState.Due])
    · -- a NAP without a next state is not to be left
      exact .of_not_due fun hdue => hleads (by rwa [hcur] at hdue) hcur (not_not.1 hnext)
    · exact .of_not_due (by rw [transitToWorking_curState]; exact id)
    · intro hdue
      obtain ⟨_, _, _, hf⟩ := NapState.setPhaseTransitTask_frame evalResult s
      have hnap : (NapState.setPhaseTransitTask evalResult s).curState = .nap := by rw [hf, hcur]
      rw [hnap] at hdue ⊢
      rcases h hdue with hp | ⟨-, hend⟩ | ⟨hd, -⟩
      · exact .inl hp.setPhaseTransitTask
      · exact absurd hend hphase
      · cases hd
  | maintenance =>
    simp only [hcur] at h ⊢
    intro hdue
    rw [hcur] at hdue ⊢
    rcases h hdue with hp | ⟨hn, -⟩ | ⟨hd, -⟩
    · exact .inl hp
    · cases hn
    · cases hd
  | sleep =>
    simp only [SleepState.endEvalCurrentState]
    refine .of_not_due ?_
    split_ifs
    · rw [endEvalPhase_curState, hcur]
      exact id
    · rw [transitToWorking_curState]
      exact id
    · rw [hcur]
      exact id

/-- The end of an evaluation. -/
theorem endEval_pending (hstart : ∀ state, p.startTimer state = true) (hleads : NapLeads cfg s)
    (h : LeavesOn cfg s evalResult) (hev : s.isEvalution = true)
    (halive : (endEvalCurrentState cfg p evalResult s).crashed = false) :
    TransitionPending cfg (endEvalCurrentState cfg p evalResult s) := by
  have htasks : ∀ state, .transitNextState state ∈ s.handler.tasks →
      .transitNextState state ∈ (finishEvalution s).handler.tasks :=
    fun _ hmem => mem_finishEvalution_of_ne nofun hmem
  unfold endEvalCurrentState at halive ⊢
  rw [if_neg (not_not_intro hev)] at halive ⊢
  obtain ⟨_, _, _, hf⟩ := finishEvalution_frame (s := s)
  rw [hf] at htasks halive ⊢
  exact stateEndEval_pending hstart hleads
    (fun hdue => (h hdue).imp_left fun hp => hp.of_le rfl id (htasks _)) halive

/-- Starting the sensors of a motion monitor, or failing to, keeps the way out. -/
theorem TransitionPending.periodlyStartMotionDetection (h : TransitionPending cfg s)
    (hstart : ∀ state, p.startTimer state = true) (m : Monitor) :
    TransitionPending cfg (periodlyStartMotionDetection cfg p m s) := by
  unfold DeviceStandby.periodlyStartMotionDetection
  split
  · exact h.of_le rfl rfl (fun _ => id) rfl id fun _ hmem =>
      List.mem_append_left _ (List.mem_append_left _ hmem)
  · exact TransitionPending.block (h.of_eq rfl rfl rfl rfl rfl) hstart

/-- A request keeps the way out when its result would be one, or a motion monitor answers it. -/
theorem startEval_pending {params : ConstraintEvalParam}
    (hstart : ∀ state, p.startTimer state = true) (hleads : NapLeads cfg s)
    (hmanager : s.curState.Due cfg → s.constraintManager.hasStateManager = true)
    (hbusy : s.constraintManager.isEvaluation = true → TransitionPending cfg s)
    (h : s.curState.Due cfg → TimeoutPending s.curState s ∨
      (s.curState = .nap ∧ s.napState.curPhase = NapStatePhase.END) ∨
      (s.curState = .dark ∧
        s.constraintManager.constraintMap.lookup params.getHashValue = none))
    (halive : (startEvalCurrentState cfg p params s).crashed = false) :
    TransitionPending cfg (startEvalCurrentState cfg p params s) := by
  obtain ⟨hb, heq⟩ | ⟨-, m, hm, heq⟩ | ⟨-, -, -, heq⟩ | ⟨-, -, hunmanaged, heq⟩ :=
    startEvalCurrentState_cases cfg p params s
  all_goals rw [heq] at halive ⊢
  · exact (hbusy hb).of_le rfl rfl (fun _ => id) rfl (fun _ => rfl) fun _ => id
  · have hcases : s.curState.Due cfg → TimeoutPending s.curState s ∨
        (s.curState = .nap ∧ s.napState.curPhase = NapStatePhase.END) := fun hdue => by
      rcases h hdue with hp | hn | ⟨-, hnone⟩
      · exact .inl hp
      · exact .inr hn
      · rw [hm] at hnone
        cases hnone
    unfold startMonitoring at halive ⊢
    split at halive
    case h_1 =>
      exact endEval_pending hstart hleads (fun hdue => (hcases hdue).imp_right .inl) rfl halive
    all_goals
      refine TransitionPending.periodlyStartMotionDetection (fun hdue => ?_) hstart m
      refine (hcases hdue).imp (fun hp => hp.of_le rfl id (List.mem_append_left _)) fun hn => ?_
      exact ⟨hn.1, hn.2, rfl, List.mem_append_right _ (List.mem_singleton.2 rfl)⟩
  · exact endEval_pending hstart hleads (fun hdue =>
      (h hdue).imp_right (Or.imp_right fun hd => ⟨hd.1, rfl⟩)) rfl halive
  · refine .of_not_due fun hdue => ?_
    rw [hmanager hdue] at hunmanaged
    cases hunmanaged

/-! ## The transition task -/

/-- What the task of `StartTransitNextState` does with the answer to its request. -/
def afterRequest (cfg : StandbyConfig) (p : Platform) : ErrCode × Service → Service
  | (.ok, s) => s
  | (_, s) => (blockCurrentState cfg p s).releaseStandbyRunningLock

/-- A transition task asks for the next state of its state object. -/
theorem runTransitNextState_eq :
    runTransitNextState cfg p state s =
      afterRequest cfg p (transitToState cfg p
        (nextStateOf cfg state (stopEvalution s.acquireStandbyRunningLock))
        (stopEvalution s.acquireStandbyRunningLock)) := rfl

/-- A request that is refused as invalid, or for the current state, is absorbed. -/
theorem absorbs_of_refused (hdue : s.curState.Due cfg)
    (h : checkTransitionValid s.curState nextState = false ∨ s.curState = nextState) :
    Absorbs cfg p nextState s := by
  unfold Absorbs
  cases hcur : s.curState <;> rw [hcur] at hdue h
  all_goals first | exact hdue.elim | cases nextState <;> simp_all [checkTransitionValid]

/-- A request for a deeper state that is not absorbed: DARK is not blocked, and NAP asks for SLEEP,
past its last phase or with a maintenance window ahead. -/
theorem deeper_of_not_absorbs (hdue : s.curState.Due cfg) (hnot : ¬ Absorbs cfg p nextState s)
    (hlt : s.curState.toNat < nextState.toNat)
    (hmaint : ¬ (nextState = .maintenance ∨ s.curState = .maintenance)) :
    (s.curState = .dark ∧ s.isBlocked = false) ∨
      (s.curState = .nap ∧ if s.isBlocked then
          0 < (calculateMaintTimeOut p cfg.napMaintDuration s.napState.maintIntervalIndex true).1
        else s.napState.curPhase = NapStatePhase.END) := by
  rw [not_or] at hmaint
  unfold Absorbs at hnot
  cases hcur : s.curState with
  | working | sleep =>
    rw [hcur] at hdue
    exact hdue.elim
  | maintenance => exact absurd hcur hmaint.2
  | dark =>
    simp only [hcur, not_or, not_and] at hnot
    refine .inl ⟨rfl, Bool.eq_false_iff.2 fun hb => hnot.2.2 hb ?_⟩
    rintro rfl
    exact Nat.not_lt_zero _ hlt
  | nap =>
    have hsleep : nextState = .sleep := by
      rw [hcur] at hlt
      cases nextState <;> first | rfl | exact absurd rfl hmaint.1 | exact absurd hlt (by decide)
    simp only [hcur, hsleep, reduceCtorEq, false_or, true_and] at hnot
    refine .inr ⟨rfl, ?_⟩
    split_ifs at hnot ⊢
    · exact Int.not_le.1 hnot
    · exact not_not.1 hnot

/-- A request of a transition task that is not absorbed keeps a way out pending. -/
theorem afterRequest_pending (hstart : ∀ state, p.startTimer state = true)
    (hleads : NapLeads cfg s) (hidle : s.constraintManager.isEvaluation = false)
    (hmanager : s.curState.Due cfg → s.constraintManager.hasStateManager = true)
    (hdark : s.curState = .dark → s.constraintManager.constraintMap.lookup
      (⟨s.curState, s.curInnerPhase, nextState, 0, false⟩ : ConstraintEvalParam).getHashValue =
        none)
    (hkeeps : s.curState.Due cfg → TimeoutPending s.curState s ∨ ¬ Absorbs cfg p nextState s)
    (hresume : nextState = .nap → s.curState = .maintenance → cfg.sleepSwitch = true →
      (calculateMaintTimeOut p cfg.napMaintDuration s.napState.maintIntervalIndex false).1 ≠ 0)
    (halive : (afterRequest cfg p (transitToState cfg p nextState s)).crashed = false) :
    TransitionPending cfg (afterRequest cfg p (transitToState cfg p nextState s)) := by
  have hrefused : (checkTransitionValid s.curState nextState = false ∨ s.curState = nextState) →
      TransitionPending cfg s := fun h hdue =>
    .inl ((hkeeps hdue).resolve_right (not_not_intro (absorbs_of_refused hdue h)))
  have hlock : ∀ u : Service, TransitionPending cfg u →
      TransitionPending cfg u.releaseStandbyRunningLock := fun u h => h.of_eq rfl rfl rfl rfl rfl
  unfold transitToState transitToStateWith at halive ⊢
  dsimp only at halive ⊢
  split_ifs at halive ⊢ with hvalid hsame hmaint hlt
  · exact (hrefused (.inr hsame)).of_eq rfl rfl rfl rfl rfl
  · unfold transitWithMaint at halive ⊢
    dsimp only [afterRequest] at halive ⊢
    split_ifs at halive ⊢
    · exact transit_pending hstart (by simpa using hresume) halive
    · exact transit_pending hstart hresume halive
  · unfold enterStandby at halive ⊢
    split_ifs at halive ⊢ with hblocked
    · refine hlock _ ?_
      by_cases hway : s.curState.Due cfg → TimeoutPending s.curState s
      · exact TransitionPending.block (fun hdue => .inl (hway hdue)) hstart
      · -- only NAP finds another way out when it is blocked
        obtain ⟨hdue, hlost⟩ := Classical.not_imp.1 hway
        rcases deeper_of_not_absorbs hdue ((hkeeps hdue).resolve_left hlost) hlt hmaint with
          ⟨-, hfree⟩ | ⟨hcur, hahead⟩
        · rw [hblocked] at hfree
          cases hfree
        · rw [if_pos hblocked] at hahead
          intro _
          rw [blockCurrentState_curState, hcur]
          exact .inl (blockCurrentState_nap hstart hcur hahead)
    · refine startEval_pending hstart hleads hmanager (fun hb => ?_) (fun hdue => ?_) halive
      · rw [hidle] at hb
        cases hb
      · refine (hkeeps hdue).imp_right fun hnot => ?_
        rcases deeper_of_not_absorbs hdue hnot hlt hmaint with ⟨hcur, -⟩ | ⟨hcur, hend⟩
        · exact .inr ⟨hcur, hdark hcur⟩
        · rw [if_neg hblocked] at hend
          exact .inl ⟨hcur, hend⟩
  · unfold exitStandby at halive ⊢
    dsimp only [afterRequest] at halive ⊢
    obtain ⟨_, _, _, _, hstop⟩ := stopEvalution_frame (s := s)
    have hcur : ∀ u : Service, u.curState = s.curState →
        (transitToStateInner cfg p nextState u).crashed = false →
        TransitionPending cfg (transitToStateInner cfg p nextState u) := fun u hu halive =>
      transit_pending hstart (fun _ hm => absurd (.inr (hu ▸ hm)) hmaint) halive
    split_ifs at halive ⊢
    · exact hcur _ (by simp [unblockCurrentState, hstop]) halive
    · exact hcur _ (by rw [hstop]; rfl) halive
  · refine hlock _ (TransitionPending.block (hrefused (.inl ?_)) hstart)
    simpa using hvalid

/-- No monitor is registered for a way out of DARK. -/
theorem Registered.lookup_dark (h : Registered s) (nextState : StandbyState) :
    s.constraintManager.constraintMap.lookup
      (⟨.dark, 0, nextState, 0, false⟩ : ConstraintEvalParam).getHashValue = none := by
  by_contra hne
  obtain ⟨m, hm⟩ := Option.ne_none_iff_exists'.1 hne
  have hparams := h.lookup_params ⟨Nat.zero_le _, Nat.zero_le _⟩ hm
  cases hkind : m.kind <;> rw [hkind] at hparams <;> cases hparams

/-- WORKING is never due. -/
theorem StandbyState.Due.ne_working (h : state.Due cfg) : state ≠ .working := by
  rintro rfl
  exact h

/-- What a request needs to know of the managers. -/
structure Managed (cfg : StandbyConfig) (s : Service) : Prop where
  evaluation : s.constraintManager.isEvaluation = true → s.isEvalution = true
  hasStateManager : s.curState.Due cfg → s.constraintManager.hasStateManager = true
  dark : ∀ nextState, s.constraintManager.constraintMap.lookup
    (⟨.dark, 0, nextState, 0, false⟩ : ConstraintEvalParam).getHashValue = none

/-- In every run the managers are in order. -/
theorem managed_reachable {ok : Service → Action → Prop}
    (h : Lts.ReachableUnder (system cfg) ok s) : Managed cfg s where
  evaluation := (basic_reachable h).evaluation
  hasStateManager hdue :=
    (registered_reachable h).hasStateManager ((basic_reachable h).ready hdue.ne_working)
  dark := (registered_reachable h).lookup_dark

/-- The task of `StartTransitNextState` leaves no evaluation to the constraint manager. -/
theorem Managed.stopEvalution_isEvaluation (hm : Managed cfg s) :
    (stopEvalution s.acquireStandbyRunningLock).constraintManager.isEvaluation = false := by
  refine Bool.eq_false_iff.2 fun hev => ?_
  obtain ⟨hs, hnot⟩ := DeviceStandby.stopEvalution_isEvaluation hev
  have hs : s.isEvalution = true := hm.evaluation hs
  have hnot : s.isEvalution = false := hnot
  rw [hs] at hnot
  cases hnot

/-- The task of `StartTransitNextState` keeps a way out pending when it is not absorbed. -/
theorem runTransitNextState_pending (hstart : ∀ state, p.startTimer state = true)
    (hm : Managed cfg s) (hleads : NapLeads cfg s)
    (hkeeps : s.curState.Due cfg →
      TimeoutPending s.curState s ∨ ¬ Absorbs cfg p (nextStateOf cfg state s) s)
    (hresume : nextStateOf cfg state s = .nap → s.curState = .maintenance →
      cfg.sleepSwitch = true →
      (calculateMaintTimeOut p cfg.napMaintDuration s.napState.maintIntervalIndex false).1 ≠ 0)
    (halive : (runTransitNextState cfg p state s).crashed = false) :
    TransitionPending cfg (runTransitNextState cfg p state s) := by
  have hidle := hm.stopEvalution_isEvaluation
  have htasks : .transitNextState s.curState ∈ s.handler.tasks → .transitNextState s.curState ∈
      (stopEvalution s.acquireStandbyRunningLock).handler.tasks :=
    fun hmem => mem_stopEvalution_of_ne nofun hmem
  rw [runTransitNextState_eq] at halive ⊢
  obtain ⟨_, _, _, _, hf⟩ := stopEvalution_frame (s := s.acquireStandbyRunningLock)
  rw [hf] at hidle htasks halive ⊢
  -- the task finds its state object, the block and the phase as they were
  refine afterRequest_pending hstart hleads hidle hm.hasStateManager (fun hcur => ?_)
    (fun hdue => ?_) ?_ halive
  · have hcur : s.curState = .dark := hcur
    simp only [Service.curInnerPhase, Service.acquireStandbyRunningLock, hcur]
    exact hm.dark _
  · refine (hkeeps hdue).imp (fun h => h.of_le rfl id htasks) fun hnot => ?_
    cases state <;> exact hnot
  · cases state <;> exact hresume

/-! ## Events -/

/-- Stopping a timer leaves the callbacks of the others in flight. -/
theorem mem_remainingCallbacks_of_ne {c callback : TimerCallback} (hne : callback ≠ c)
    (h : callback ∈ s.timeService.callbacks) : callback ∈ remainingCallbacks cfg c s := by
  unfold remainingCallbacks
  split_ifs
  · exact List.mem_filter.2 ⟨h, by simpa using hne⟩
  · exact h

/-- Recording an event touches the half-hour timer only. -/
theorem TransitionPending.recordEvent (h : TransitionPending cfg s) (p : Platform)
    (action : CommonEvent) : TransitionPending cfg (recordEvent cfg p action s) := by
  have htime : (DeviceStandby.recordEvent cfg p action s).timeService.enterStandbyTimer =
        s.timeService.enterStandbyTimer ∧
      ∀ state, .startTransitNextState state ∈ s.timeService.callbacks →
        .startTransitNextState state ∈
          (DeviceStandby.recordEvent cfg p action s).timeService.callbacks := by
    unfold DeviceStandby.recordEvent handleScrOffHalfHour
    cases action <;> dsimp only [handleScreenStatus] <;> split_ifs
    all_goals first
      | exact ⟨rfl, fun _ => id⟩
      | exact ⟨rfl, fun _ hmem => mem_remainingCallbacks_of_ne nofun hmem⟩
  obtain ⟨_, _, _, hf⟩ := recordEvent_frame cfg p action s
  exact h.of_le (by rw [hf]) htime.1 htime.2 (by rw [hf]) (by rw [hf]; exact id)
    (by rw [hf]; exact fun _ => id)

/-- The way from WORKING to DARK. -/
theorem transitToDark_pending (hstart : ∀ state, p.startTimer state = true)
    (hcur : s.curState = .working)
    (halive : (transitToState cfg p .dark s).2.crashed = false) :
    TransitionPending cfg (transitToState cfg p .dark s).2 := by
  have hnot : ¬ s.curState.Due cfg := by rw [hcur]; exact id
  by_cases hblocked : s.isBlocked = true
  · rw [transitToDark_blocked hcur hblocked]
    exact .of_not_due hnot
  · rw [transitToDark_eq hcur (Bool.eq_false_iff.2 hblocked)] at halive ⊢
    refine startEval_pending hstart (fun _ hnap => ?_) (absurd · hnot) (fun _ => .of_not_due hnot)
      (absurd · hnot) halive
    rw [hcur] at hnap
    cases hnap

/-- What a common event leads to leaves a transition pending. -/
theorem TransitionPending.respond (h : TransitionPending cfg s) :
    TransitionPending cfg (respond cfg p action s) := by
  have hsleep : ∀ u : Service, u.curState = .sleep → TransitionPending cfg u := fun u hu =>
    .of_not_due (by rw [hu]; exact id)
  unfold DeviceStandby.respond
  split_ifs with hwake
  · exact .of_not_due (by rw [transitToWorking_curState]; exact id)
  · cases action with
    | screenOn | screenUnlocked | charging | usbDeviceAttached | lidOpen => exact absurd rfl hwake
    | screenOff | discharging | usbDeviceDetached | other => exact h
    | enterForceSleep => exact hsleep _ transitHoldSleepState_curState
    | userSleepStateChanged isSleep =>
      simp only [handleAction, handleUserSleepState]
      cases isSleep with
      | none => split_ifs <;> exact h
      | some isSleepState =>
        by_cases hscreen : s.isScreenOn = true
        · rw [if_pos hscreen]
          exact h
        · rw [if_neg hscreen]
          cases isSleepState with
          | true => exact hsleep _ transitHoldSleepState_curState
          | false =>
            obtain ⟨_, _, _, _, _, hf⟩ := SleepState.beginState_frame cfg p
              (({ s with isSleepState := false } : Service).log .sleepRebegun)
            simp only [Bool.false_eq_true, if_false, hf]
            split_ifs with hcur
            · exact hsleep _ hcur
            · exact h.of_eq rfl rfl rfl rfl rfl

/-- An event keeps a way out pending: it wakes the device, holds it in SLEEP, or may begin DARK. -/
theorem handleCommonEvent_pending (hstart : ∀ state, p.startTimer state = true)
    (h : TransitionPending cfg s)
    (halive : (handleCommonEvent cfg p action s).crashed = false) :
    TransitionPending cfg (handleCommonEvent cfg p action s) := by
  rw [handleCommonEvent_eq, tryEnterDark_eq] at halive ⊢
  split_ifs at halive ⊢ with hdark
  · exact transitToDark_pending hstart hdark.1 halive
  · exact (h.recordEvent p action).respond

/-! ## Tasks -/

/-- Taking a task that is no way out. -/
theorem TransitionPending.take (h : TransitionPending cfg s) (task : Task)
    (htimeout : task ≠ .motionTotalTimeOut) (htransit : ∀ state, task ≠ .transitNextState state) :
    TransitionPending cfg { s with handler.tasks := s.handler.tasks.erase task } := fun hdue =>
  (h hdue).imp
    (fun hp => hp.of_le rfl id (List.mem_erase_of_ne (htransit _).symm).2)
    fun hd => ⟨hd.curState, hd.curPhase, hd.isEvalution,
      (List.mem_erase_of_ne htimeout.symm).2 hd.timeout⟩

/-- The running lock is no way out. -/
theorem TransitionPending.acquire (h : TransitionPending cfg s) :
    TransitionPending cfg s.acquireStandbyRunningLock :=
  h.of_eq rfl rfl rfl rfl rfl

/-- The running lock does not concern the managers. -/
theorem Managed.acquire (h : Managed cfg s) : Managed cfg s.acquireStandbyRunningLock :=
  ⟨h.evaluation, h.hasStateManager, h.dark⟩

/-- A state with a way out pending takes any result for it, or still has it. -/
theorem TransitionPending.leavesOn (h : TransitionPending cfg s) : LeavesOn cfg s evalResult :=
  fun hdue => (h hdue).imp_right fun hd => .inl ⟨hd.curState, hd.curPhase⟩

/-- A request of a task keeps a way out pending. -/
theorem TransitionPending.startEvalCurrentState (h : TransitionPending cfg s)
    {params : ConstraintEvalParam} (hstart : ∀ state, p.startTimer state = true)
    (hm : Managed cfg s) (hleads : NapLeads cfg s)
    (halive : (startEvalCurrentState cfg p params s).crashed = false) :
    TransitionPending cfg (startEvalCurrentState cfg p params s) :=
  startEval_pending hstart hleads hm.hasStateManager (fun _ => h)
    (fun hdue => (h hdue).imp_right fun hd => .inl ⟨hd.curState, hd.curPhase⟩) halive

/-- A pending task keeps a way out pending. -/
theorem runTask_pending {task : Task} (hstart : ∀ state, p.startTimer state = true)
    (hm : Managed cfg s) (hleads : NapLeads cfg s) (hown : OwnTasks s)
    (h : TransitionPending cfg s) (hok : KeepsTransition cfg s (.runTask task p))
    (hmem : task ∈ s.handler.tasks)
    (halive : (runTask cfg p task { s with handler.tasks := s.handler.tasks.erase task }).crashed =
      false) :
    TransitionPending cfg
      (runTask cfg p task { s with handler.tasks := s.handler.tasks.erase task }) := by
  have hm' : Managed cfg { s with handler.tasks := s.handler.tasks.erase task } :=
    ⟨hm.evaluation, hm.hasStateManager, hm.dark⟩
  cases task with
  | transitNextState state =>
    refine runTransitNextState_pending hstart hm' hleads (fun hdue => ?_) ?_ halive
    · by_cases hleft : TimeoutPending s.curState
        { s with handler.tasks := s.handler.tasks.erase (.transitNextState state) }
      · exact .inl hleft
      · have hnot := hok.absorbed state p rfl hdue hleft
        right
        cases state <;> exact hnot
    · have hresume := hok.resumed state p rfl
      exact fun hnext hcur => hresume hcur (by cases state <;> exact hnext)
  | checkScreenStatus =>
    have hcur := hown.checkScreen hmem
    simp only [runTask, WorkingState.checkScreenStatus] at halive ⊢
    split_ifs at halive ⊢
    · exact .of_not_due (by rw [hcur]; exact id)
    · exact transitToDark_pending hstart hcur halive
  | transitToNapPhase acquire =>
    have htaken := h.take (.transitToNapPhase acquire) (by simp) (by simp)
    cases acquire with
    | true => exact htaken.acquire.startEvalCurrentState hstart hm'.acquire hleads halive
    | false => exact htaken.startEvalCurrentState hstart hm' hleads halive
  | transitToSleepPhase acquire =>
    have htaken := h.take (.transitToSleepPhase acquire) (by simp) (by simp)
    cases acquire with
    | true => exact htaken.acquire.startEvalCurrentState hstart hm'.acquire hleads halive
    | false => exact htaken.startEvalCurrentState hstart hm' hleads halive
  | repeatedDetection =>
    have htaken := h.take .repeatedDetection (by simp) (by simp)
    have hset : TransitionPending cfg { s with
        handler.tasks := s.handler.tasks.erase .repeatedDetection
        sleepState.isRepeatedDetection := true } := htaken.of_eq rfl rfl rfl rfl rfl
    exact hset.startEvalCurrentState hstart ⟨hm.evaluation, hm.hasStateManager, hm.dark⟩ hleads
      halive
  | motionTotalTimeOut =>
    have hleft : TimeoutPending s.curState s → TimeoutPending s.curState
        { s with handler.tasks := s.handler.tasks.erase .motionTotalTimeOut } := fun hp =>
      hp.of_le rfl id fun hmem => (List.mem_erase_of_ne (a := Task.transitNextState s.curState)
        (b := .motionTotalTimeOut) (by simp)).2 hmem
    by_cases hev : s.isEvalution = true
    · exact endEval_pending hstart hleads
        (fun hdue => (h hdue).imp hleft fun hd => .inl ⟨hd.curState, hd.curPhase⟩) hev halive
    · rw [runTask, endEvalCurrentState, if_pos hev]
      exact fun hdue => .inl (hleft ((h hdue).resolve_right fun hd => hev hd.isEvalution))
  | motionDetected =>
    have htaken := h.take .motionDetected (by simp) (by simp)
    by_cases hev : s.isEvalution = true
    · exact endEval_pending hstart hleads htaken.leavesOn hev halive
    · rw [runTask, endEvalCurrentState, if_pos hev]
      exact htaken
  | stopMotionDetection m =>
    exact (h.take (.stopMotionDetection m) (by simp) (by simp)).of_eq rfl rfl rfl rfl rfl
  | periodlyStartMotionDetection m =>
    exact (h.take (.periodlyStartMotionDetection m) (by simp)
      (by simp)).periodlyStartMotionDetection hstart m

/-! ## Timers -/

/-- A timer that fires leaves its callback. -/
theorem TimeoutPending.timerFire (h : TimeoutPending state s) {callback : TimerCallback}
    (hfire : timerFire callback s = some t) : TimeoutPending state t := by
  unfold DeviceStandby.timerFire at hfire
  cases callback with
  | startTransitNextState state' =>
    obtain ⟨_, -, rfl⟩ := Option.map_eq_some_iff.1 hfire
    by_cases hsame : state = state'
    · subst hsame
      exact .inr (.inl List.mem_cons_self)
    · refine h.imp (fun hst => ?_) (Or.imp_left (List.mem_cons_of_mem _))
      simpa [TimeService.Started, Function.update_of_ne hsame] using hst
  | startPeriodlyMotionDetection | screenOffHalfHour =>
    obtain ⟨_, -, rfl⟩ := Option.map_eq_some_iff.1 hfire
    exact h.of_le rfl (List.mem_cons_of_mem _) id

/-- A callback that runs leaves its task. -/
theorem TimeoutPending.runCallback (h : TimeoutPending state s) (callback : TimerCallback) :
    TimeoutPending state (runCallback callback { s with
      timeService.callbacks := s.timeService.callbacks.erase callback }) := by
  cases callback with
  | startTransitNextState state' =>
    by_cases hsame : state = state'
    · subst hsame
      exact .inr (.inr (List.mem_append_right _ (List.mem_singleton.2 rfl)))
    · refine h.of_le rfl (fun hmem => ?_) (List.mem_append_left _)
      exact (List.mem_erase_of_ne (by simpa using hsame)).2 hmem
  | startPeriodlyMotionDetection =>
    exact h.of_le rfl (fun hmem => (List.mem_erase_of_ne (by simp)).2 hmem)
      (List.mem_append_left _)
  | screenOffHalfHour =>
    obtain ⟨_, _, _, hf⟩ := onScreenOffHalfHourInner_frame (c := true) (r := false)
      (s := { s with timeService.callbacks := s.timeService.callbacks.erase .screenOffHalfHour })
    rw [DeviceStandby.runCallback, hf]
    exact h.of_le rfl (fun hmem => (List.mem_erase_of_ne (by simp)).2 hmem) id

/-! ## Steps -/

/-- A step that meets the condition keeps a way out pending. -/
theorem pending_step (hr : Lts.Reachable (system cfg) s) (htimers : a.TimersStart)
    (hok : KeepsTransition cfg s a) (h : TransitionPending cfg s)
    (hs : (system cfg).step s a = some t) : TransitionPending cfg t := by
  obtain ⟨hact, halive⟩ := (system_step_iff cfg).1 hs
  have hworking : ∀ u : Service, u.curState = .working → TransitionPending cfg u := fun u hu =>
    .of_not_due (by rw [hu]; exact id)
  cases a with
  | timerFire callback =>
    have hpend : ∀ state, TimeoutPending state s → TimeoutPending state t := fun _ hp =>
      hp.timerFire hact
    obtain ⟨_, rfl⟩ := timerFire_frame hact
    exact fun hdue => (h hdue).imp (hpend _) fun hd =>
      ⟨hd.curState, hd.curPhase, hd.isEvalution, hd.timeout⟩
  | timerCallback callback =>
    obtain ⟨-, rfl⟩ := act_timerCallback hact
    have hdecide : Deciding s → Deciding (runCallback callback { s with
        timeService.callbacks := s.timeService.callbacks.erase callback }) := fun hd => by
      cases callback with
      | startTransitNextState | startPeriodlyMotionDetection =>
        exact ⟨hd.curState, hd.curPhase, hd.isEvalution, List.mem_append_left _ hd.timeout⟩
      | screenOffHalfHour =>
        exact ⟨by simpa [runCallback] using hd.curState, by simpa [runCallback] using hd.curPhase,
          by simpa [runCallback] using hd.isEvalution, by simpa [runCallback] using hd.timeout⟩
    intro hdue
    rw [runCallback_curState] at hdue ⊢
    exact (h hdue).imp (fun hp => hp.runCallback callback) hdecide
  | sensorEvent m =>
    obtain ⟨-, rfl⟩ := act_sensorEvent hact
    exact h.of_le rfl rfl (fun _ => id) rfl id fun _ hmem => List.mem_append_left _ hmem
  | runTask task p =>
    obtain ⟨hmem, rfl⟩ := act_runTask hact
    exact runTask_pending (htimers p rfl).1 (managed_reachable hr) (napLeads_reachable hr)
      (ownTasks_reachable hr) h hok hmem halive
  | post message =>
    obtain ⟨-, rfl⟩ := act_post hact
    exact h.of_eq rfl rfl rfl rfl rfl
  | dispatch p =>
    obtain ⟨message, queue, hqueue, rfl⟩ := act_dispatch hact
    have htaken : TransitionPending cfg { s with handler.queue := queue } :=
      h.of_eq rfl rfl rfl rfl rfl
    unfold handleEvent at halive ⊢
    split at halive
    · exact handleCommonEvent_pending (htimers p rfl).1 htaken halive
    · exact htaken
  | dayNightSwitch condition =>
    cases hact
    split_ifs
    · exact h.of_eq rfl rfl rfl rfl rfl
    · exact h
  | initReadyState p =>
    obtain ⟨-, rfl⟩ := act_initReadyState hact
    cases hready : s.isServiceReady with
    | true =>
      rw [initReadyState_of_ready hready]
      exact h
    | false =>
      obtain ⟨_, _, hf⟩ := initReadyState_frame cfg p hready
      exact hworking _ (by rw [hf])
  | uninitReadyState p =>
    cases hact
    simp only [uninitReadyState, StateManagerAdapter.unInit, transitToState_working]
    split_ifs
    · obtain ⟨_, _, hf⟩ := StateManagerAdapter.resetStates_frame cfg
        (transitToWorking cfg p (ConstraintManagerAdapter.unInit s))
      refine hworking _ ?_
      rw [hf]
      exact transitToWorking_curState
    · exact h

/-- In a run whose steps lose no way out, a state that a timer is to end has one pending. -/
theorem transition_pending
    (h : Lts.ReachableUnder (system cfg) (fun s a => a.TimersStart ∧ KeepsTransition cfg s a) s) :
    TransitionPending cfg s :=
  h.invariant (I := TransitionPending cfg) (.of_not_due id) fun hr hok hs hi =>
    pending_step hr.reachable hok.1 hok.2 hi hs

instance : Decidable (state.Due cfg) := by
  cases state <;> unfold StandbyState.Due <;> infer_instance

instance : Decidable (TimeoutPending state s) := by
  unfold TimeoutPending TimeService.Started
  infer_instance

instance : Decidable (Absorbs cfg p nextState s) := by
  unfold Absorbs
  cases s.curState <;> infer_instance

/-- A test that suffices for `KeepsTransition`, outside of MAINTENANCE. -/
def transitionTest (cfg : StandbyConfig) (s : Service) (a : Action) : Bool :=
  decide a.TimersStart && match a with
    | .runTask (.transitNextState state) p =>
      s.curState ≠ .maintenance ∧ ¬ Absorbs cfg p (nextStateOf cfg state s) s
    | _ => true

/-- The test suffices. -/
theorem keepsTransition_of_test (s : Service) (a : Action) (h : transitionTest cfg s a = true) :
    a.TimersStart ∧ KeepsTransition cfg s a := by
  obtain ⟨htimers, htask⟩ := Bool.and_eq_true_iff.1 h
  refine ⟨of_decide_eq_true htimers, fun state p ha _ _ => ?_, fun state p ha hcur => ?_⟩ <;>
    subst ha
  · exact (of_decide_eq_true htask).2
  · exact absurd hcur (of_decide_eq_true htask).1

/-- NAP has run through its phases, its timer has fired, and the motion monitor decides. -/
theorem transition_pending_nap : ∃ s, s.curState = .nap ∧
    s.timeService.enterStandbyTimer .nap = none ∧ TransitionPending sampleConfig s := by
  obtain ⟨s, hr, hs⟩ := (system sampleConfig).exists_check
    (fun s a => a.TimersStart ∧ KeepsTransition sampleConfig s a) (transitionTest sampleConfig)
    keepsTransition_of_test
    (fun s => s.curState = .nap ∧ s.timeService.enterStandbyTimer .nap = none)
    evaluatingRun (by decide)
  obtain ⟨hcur, htimer⟩ := of_decide_eq_true hs
  exact ⟨s, hcur, htimer, transition_pending hr⟩

/-- NAP is entered, and its timer fires before its first phase. -/
def absorbedRun : List Action :=
  .initReadyState samplePlatform :: handling .screenOff samplePlatform ++
    elapsing .dark samplePlatform ++ elapsing .nap samplePlatform

/-- No event that the step handles holds the device in SLEEP. -/
def Unheld (s : Service) (a : Action) : Prop :=
  ∀ action, Handles s a action → action.isHold = false

/-- A test that suffices for `Unheld`, with timers that start. -/
def unheldTest (s : Service) (a : Action) : Bool :=
  decide a.TimersStart && match s.handler.queue with
    | .commonEvent action :: _ => !action.isHold
    | _ => true

/-- The test suffices. -/
theorem unheld_of_test (s : Service) (a : Action) (h : unheldTest s a = true) :
    a.TimersStart ∧ Unheld s a := by
  obtain ⟨htimers, hevent⟩ := Bool.and_eq_true_iff.1 h
  refine ⟨of_decide_eq_true htimers, fun action ⟨_, _, _, hqueue⟩ => ?_⟩
  rw [hqueue] at hevent
  exact Bool.not_eq_true' _ ▸ hevent

/-- The way out is not always pending: a phase of NAP takes the result that should lead to SLEEP. -/
theorem transition_not_always_pending : ¬ ∀ (cfg : StandbyConfig) (s : Service),
    cfg.napMaintDuration ≠ [] → cfg.sleepMaintDuration ≠ [] →
    Lts.ReachableUnder (system cfg) (fun s a => a.TimersStart ∧ Unheld s a) s →
    TransitionPending cfg s := by
  intro h
  obtain ⟨s, hr, hs⟩ := (system sampleConfig).exists_check
    (fun s a => a.TimersStart ∧ Unheld s a) unheldTest unheld_of_test
    (fun s => s.curState = .nap ∧ ¬ TimeoutPending .nap s ∧ s.isEvalution = false)
    absorbedRun (by decide)
  obtain ⟨hcur, hlost, hidle⟩ := of_decide_eq_true hs
  have hpend := h sampleConfig s nofun nofun hr (by rw [hcur]; rfl)
  rw [hcur] at hpend
  rcases hpend with hp | hd
  · exact hlost hp
  · have hev := hd.isEvalution
    rw [hidle] at hev
    cases hev

end

end DeviceStandby
