import DeviceStandby.State.Chain

/-!
# What a step keeps

`Effect.outcome` says once what an effect can do to the fields that the invariants read, and
`step_invariant` is the rule for a step: what every effect keeps, the step keeps. The decomposition
into effects rests on `OwnTasks`, which is proved here for every reachable state, with what is so
while the service is not ready and with the bounds of the phases (`Basic`).
-/

namespace DeviceStandby

open Relation

/-- What an effect from `s` to `t` may post: the tasks of the state that is current then, the task
of a delivered callback, and motion tasks while an evaluation is running. -/
inductive Posts (cfg : StandbyConfig) (s₀ : Service) (a : Action) (s t : Service) :
    Task → Prop where
  | checkScreen (hcur : t.curState = .working) : Posts cfg s₀ a s t .checkScreenStatus
  | napPhase {acquire : Bool} (hcur : t.curState = .nap) :
      Posts cfg s₀ a s t (.transitToNapPhase acquire)
  | sleepPhase {acquire : Bool} (hcur : t.curState = .sleep) :
      Posts cfg s₀ a s t (.transitToSleepPhase acquire)
  | transit {state : StandbyState} (hcur : t.curState = s.curState)
      (hmem : .startTransitNextState state ∈ s.timeService.callbacks) :
      Posts cfg s₀ a s t (.transitNextState state)
  | repeated (hcur : t.curState = s.curState)
      (hmem : .startPeriodlyMotionDetection ∈ s.timeService.callbacks) :
      Posts cfg s₀ a s t .repeatedDetection
  | motion {task : Task} (hname : task.name = .motionDection) : Posts cfg s₀ a s t task

/-- What an effect from `s` to `t` can do to the fields that the invariants read. -/
structure Outcome (cfg : StandbyConfig) (s₀ : Service) (a : Action) (s t : Service) : Prop where
  crashed : t.crashed = false → s.crashed = false
  curState : (t.curState = s.curState ∧ t.preState = s.preState) ∨
    (∃ p nextState, Transition cfg s₀ a s nextState ∧ t = transitToStateInner cfg p nextState s) ∨
    (∃ p, s.isServiceReady = false ∧ t = initReadyState cfg p s)
  ready : (t.isServiceReady = s.isServiceReady ∧ t.statesAlive = s.statesAlive) ∨
    (t.isServiceReady = true ∧ t.statesAlive = true ∧ t.curState = .working) ∨
    (t.isServiceReady = false ∧ t.statesAlive = false ∧ t.curState = .working)
  tasks : ∀ task ∈ t.handler.tasks,
    (task ∈ s.handler.tasks ∧ (t.curState = s.curState ∨ task.name ∉ endedTasks s.curState)) ∨
      Posts cfg s₀ a s t task
  started : ∀ callback state, callback.owner = some state → t.timeService.Started callback →
    (s.timeService.Started callback ∧ (t.curState = s.curState ∨ state ≠ s.curState ∨
      s.curState = .working ∨ s.isServiceReady = false)) ∨
    (state = t.curState ∧ state.HasTimer cfg)
  callbacks : ∀ callback state, callback.owner = some state → callback ∈ t.timeService.callbacks →
    (callback ∈ s.timeService.callbacks ∧ (t.curState = s.curState ∨
      cfg.stopTimerDrains = false ∨ state ≠ s.curState ∨ s.curState = .working)) ∨
    (s.timeService.Started callback ∧ t.curState = s.curState)
  evalution : t.isEvalution = true → s.isEvalution = true ∨ ∃ params, Request cfg s₀ a s params
  evaluation : t.constraintManager.isEvaluation = true → t.isEvalution = true ∨
    (s.constraintManager.isEvaluation = true ∧ t.isEvalution = s.isEvalution)
  maint : t.crashed = false → t.curState = .maintenance →
    t.maintState.nextState = t.preState ∨
      (s.curState = .maintenance ∧ t.preState = s.preState ∧ t.maintState = s.maintState)
  maintNext : t.crashed = false → s.maintState.nextState ≠ .dark → t.maintState.nextState ≠ .dark
  napNext : t.napState.nextState = s.napState.nextState ∨ t.napState.nextState = .nap ∨
    t.napState.nextState = .sleep ∨ t.napState.nextState = .maintenance
  napDue : t.crashed = false → cfg.sleepSwitch = true → t.curState = .nap →
    t.napState.nextState ≠ .nap ∨
      (s.curState = .nap ∧ t.napState.nextState = s.napState.nextState)
  napPhase : s.napState.curPhase ≤ NapStatePhase.END → t.napState.curPhase ≤ NapStatePhase.END
  sleepPhase : s.sleepState.curPhase ≤ SleepStatePhase.END →
    t.sleepState.curPhase ≤ SleepStatePhase.END

section
variable {cfg : StandbyConfig} {s₀ : Service} {a : Action} {p : Platform} {s t : Service}

/-- The outcome of an effect that does not change which state is current. -/
theorem Outcome.stay (hcrash : t.crashed = s.crashed) (hcur : t.curState = s.curState)
    (hpre : t.preState = s.preState) (hready : t.isServiceReady = s.isServiceReady)
    (halive : t.statesAlive = s.statesAlive) (hmaint : t.maintState = s.maintState)
    (htasks : ∀ task ∈ t.handler.tasks, task ∈ s.handler.tasks ∨ Posts cfg s₀ a s t task)
    (hstarted : ∀ callback state, callback.owner = some state → t.timeService.Started callback →
      s.timeService.Started callback ∨ (state = s.curState ∧ state.HasTimer cfg))
    (hcallbacks : ∀ callback ∈ t.timeService.callbacks,
      callback ∈ s.timeService.callbacks ∨ s.timeService.Started callback)
    (hevalution : t.isEvalution = true → s.isEvalution = true ∨ ∃ params, Request cfg s₀ a s params)
    (hevaluation : t.constraintManager.isEvaluation = true → t.isEvalution = true ∨
      (s.constraintManager.isEvaluation = true ∧ t.isEvalution = s.isEvalution))
    (hnext : t.napState.nextState = s.napState.nextState ∨ t.napState.nextState = .maintenance)
    (hnap : s.napState.curPhase ≤ NapStatePhase.END → t.napState.curPhase ≤ NapStatePhase.END)
    (hsleep : s.sleepState.curPhase ≤ SleepStatePhase.END →
      t.sleepState.curPhase ≤ SleepStatePhase.END) : Outcome cfg s₀ a s t where
  crashed h := hcrash ▸ h
  curState := .inl ⟨hcur, hpre⟩
  ready := .inl ⟨hready, halive⟩
  tasks task h := (htasks task h).imp_left (⟨·, .inl hcur⟩)
  started callback state ho h :=
    (hstarted callback state ho h).imp (⟨·, .inl hcur⟩) fun h => ⟨h.1.trans hcur.symm, h.2⟩
  callbacks callback _ _ h := (hcallbacks callback h).imp (⟨·, .inl hcur⟩) (⟨·, hcur⟩)
  evalution := hevalution
  evaluation := hevaluation
  maint _ h := .inr ⟨hcur ▸ h, hpre, hmaint⟩
  maintNext _ h := hmaint ▸ h
  napNext := hnext.imp_right fun h => .inr (.inr h)
  napDue _ _ hn := hnext.symm.imp (fun h => by rw [h]; nofun) (⟨hcur ▸ hn, ·⟩)
  napPhase := hnap
  sleepPhase := hsleep

/-- DARK is not followed by MAINTENANCE. -/
theorem darkNextState_ne_maintenance : cfg.darkNextState ≠ .maintenance := by
  unfold StandbyConfig.darkNextState
  split_ifs <;> decide

/-- Only NAP and SLEEP are left for MAINTENANCE. -/
theorem Transition.maintenance_curState (h : Transition cfg s₀ a s .maintenance) :
    s.curState = .nap ∨ s.curState = .sleep := by
  generalize hnext : StandbyState.maintenance = nextState at h
  cases h with
  | exit _ _ hne => exact absurd hnext.symm hne
  | maint _ hne _ hvalid =>
    subst hnext
    cases hcur : s.curState with
    | nap => exact .inl rfl
    | sleep => exact .inr rfl
    | maintenance => exact absurd hcur hne
    | working | dark =>
      rw [hcur] at hvalid
      cases hvalid
  | darkResult => exact absurd hnext.symm darkNextState_ne_maintenance
  | workingResult | napResult | hold => cases hnext

/-- The outcome of a transition. -/
theorem Outcome.transit {nextState : StandbyState} (h : Transition cfg s₀ a s nextState) :
    Outcome cfg s₀ a s (transitToStateInner cfg p nextState s) := by
  obtain ⟨_, _, _, _, _, _, _, _, _, hframe⟩ :=
    transitToStateInner_frame cfg p nextState s
  exact {
    crashed := fun h => (transitToStateInner_alive h).1
    curState := .inr (.inl ⟨p, nextState, h, rfl⟩)
    ready := .inl (by rw [hframe]; exact ⟨rfl, rfl⟩)
    tasks := fun task hmem => by
      rcases mem_transit_tasks hmem with ⟨h, hn⟩ | hnew
      · exact .inl ⟨h, .inr hn⟩
      · right
        cases nextState <;> cases hnew
        · exact .checkScreen (by simp)
        · exact .napPhase (by simp)
        · exact .sleepPhase (by simp)
    started := fun callback state ho hst => by
      rcases transit_started hst with ⟨hs, hw⟩ | ⟨rfl, hne⟩
      · left
        refine ⟨hs, .inr ?_⟩
        by_cases hstate : state = s.curState
        · exact .inr (.inl (hw (hstate ▸ ho)))
        · exact .inl hstate
      · cases ho
        exact .inr ⟨by simp, hne⟩
    callbacks := fun callback state ho hmem => by
      obtain ⟨hs, hw⟩ := transit_callbacks hmem
      left
      refine ⟨hs, .inr ?_⟩
      cases hd : cfg.stopTimerDrains with
      | false => exact .inl rfl
      | true =>
        right
        by_cases hstate : state = s.curState
        · exact .inr (hw hd (hstate ▸ ho))
        · exact .inl hstate
    evalution := fun h => .inl (by rwa [hframe] at h)
    evaluation := fun h => .inr (by rw [hframe] at h ⊢; exact ⟨h, rfl⟩)
    maint := fun hcr hcur => by
      left
      rw [transit_maintState (transitToStateInner_alive hcr).2]
      simp at hcur
      simp [hcur]
    maintNext := fun hcr hne => by
      rw [transit_maintState (transitToStateInner_alive hcr).2]
      split_ifs with hnext
      · subst hnext
        intro hdark
        rcases h.maintenance_curState with hcur | hcur <;>
          · rw [hcur] at hdark
            cases hdark
      · exact hne
    napNext := by
      by_cases halive : s.statesAlive = true
      · rw [(transit_napState halive).2]
        split_ifs <;> simp
      · obtain ⟨_, _, hrep⟩ := replaceState_frame cfg nextState s
        left
        simp [transitToStateInner, hrep, halive]
    napDue := fun hcr hswitch hcur => by
      have hnap : nextState = .nap := by simpa using hcur
      left
      rw [(transit_napState (transitToStateInner_alive hcr).2).2, if_neg (not_not_intro hnap),
        if_pos hswitch]
      split_ifs <;> nofun
    napPhase := fun hle => by
      by_cases halive : s.statesAlive = true
      · rw [(transit_napState halive).1]
        split_ifs
        · exact Nat.zero_le _
        · exact hle
      · obtain ⟨_, _, hrep⟩ := replaceState_frame cfg nextState s
        simpa [transitToStateInner, hrep, halive] using hle
    sleepPhase := fun hle => by
      by_cases halive : s.statesAlive = true
      · rw [transit_sleepPhase halive]
        split_ifs
        · exact Nat.zero_le _
        · exact hle
      · obtain ⟨_, _, hrep⟩ := replaceState_frame cfg nextState s
        simpa [transitToStateInner, hrep, halive] using hle }

/-- Recording an event touches no timer of a state. -/
theorem recordEvent_timeService (cfg : StandbyConfig) (p : Platform) (action : CommonEvent)
    (s : Service) :
    (∀ callback state, callback.owner = some state →
      (recordEvent cfg p action s).timeService.Started callback →
        s.timeService.Started callback) ∧
    (recordEvent cfg p action s).timeService.callbacks ⊆ s.timeService.callbacks := by
  have hstarted : ∀ {ts : TimeService} {callback : TimerCallback} {state : StandbyState},
      ts.Started callback → callback.owner = some state →
      ts.enterStandbyTimer = s.timeService.enterStandbyTimer →
      ts.repeatedDetectionTimer = s.timeService.repeatedDetectionTimer →
      s.timeService.Started callback := by
    intro ts callback state h ho he hr
    cases callback with
    | startTransitNextState => simpa only [TimeService.Started, he] using h
    | startPeriodlyMotionDetection => simpa only [TimeService.Started, hr] using h
    | screenOffHalfHour => cases ho
  unfold recordEvent handleScrOffHalfHour
  cases action <;> dsimp only [handleScreenStatus] <;> split_ifs <;>
    first
    | exact ⟨fun _ _ ho h => hstarted h ho rfl rfl, fun _ h => h⟩
    | exact ⟨fun _ _ ho h => hstarted h ho rfl rfl, fun _ h => (mem_remainingCallbacks h).1⟩

/-- Blocking a state starts at most the timer of NAP, while NAP is current. -/
theorem blockCurrentState_started {callback : TimerCallback}
    (h : (blockCurrentState cfg p s).timeService.Started callback) :
    s.timeService.Started callback ∨
      (callback = .startTransitNextState .nap ∧ s.curState = .nap) := by
  simp only [blockCurrentState] at h
  split at h
  · rename_i hcur
    simp only [NapState.onStateBlocked, Service.releaseStandbyRunningLock] at h
    split_ifs at h
    · exact (startStateTransitionTimer_started h).imp_right (⟨·, hcur⟩)
    · exact .inl h
  · exact .inl h

/-- A result in a phase of SLEEP starts at most the repeated timer. -/
theorem endEvalPhase_started {evalResult : Bool} {callback : TimerCallback}
    (h : (SleepState.endEvalPhase cfg p evalResult s).timeService.Started callback) :
    s.timeService.Started callback ∨ callback = .startPeriodlyMotionDetection := by
  obtain ⟨_, _, _, _, hframe⟩ := SleepState.endEvalPhase_frame cfg p evalResult s
  rw [hframe] at h
  cases callback with
  | startPeriodlyMotionDetection => exact .inr rfl
  | startTransitNextState | screenOffHalfHour => exact .inl h

/-- The stop of an evaluation leaves the constraint manager idle when the state manager was
evaluating, and else as it was. -/
theorem stopEvalution_isEvaluation
    (h : (stopEvalution s).constraintManager.isEvaluation = true) :
    s.constraintManager.isEvaluation = true ∧ s.isEvalution = false := by
  unfold stopEvalution at h
  split_ifs at h with hev
  · obtain ⟨_, _, _, hstop⟩ := ConstraintManagerAdapter.stopEvalution_frame (s := s)
    rw [hstop] at h
    cases h
  · exact ⟨h, Bool.eq_false_iff.2 hev⟩

variable (cfg s t) in
/-- An operation of the current state that starts at most a timer of this state. -/
theorem started_own {callback : TimerCallback} (hown : callback.owner = some s.curState)
    (htimer : s.curState.HasTimer cfg)
    (h : ∀ c, t.timeService.Started c → s.timeService.Started c ∨ c = callback) :
    ∀ c state, c.owner = some state → t.timeService.Started c →
      s.timeService.Started c ∨ (state = s.curState ∧ state.HasTimer cfg) := by
  intro c state ho hst
  rcases h c hst with hs | rfl
  · exact .inl hs
  · rw [hown] at ho
    cases ho
    exact .inr ⟨rfl, htimer⟩

/-- The outcome of `StateManagerAdapter::Init`. -/
theorem Outcome.init (hready : s.isServiceReady = false) (hcallbacks : s.timeService.callbacks = [])
    (htasks : ∀ task ∈ s.handler.tasks, task.name = .motionDection) :
    Outcome cfg s₀ a s (initReadyState cfg p s) := by
  obtain ⟨_, _, h⟩ := initReadyState_frame cfg p hready
  exact {
    crashed := fun hc => by rwa [h] at hc
    curState := .inr (.inr ⟨p, hready, rfl⟩)
    ready := .inr (.inl (by rw [h]; exact ⟨rfl, rfl, rfl⟩))
    tasks := fun task hmem => by
      rw [h] at hmem
      rcases List.mem_append.1 hmem with hmem | hmem
      · refine .inl ⟨hmem, .inr ?_⟩
        rw [htasks task hmem]
        cases s.curState <;> decide
      · rw [List.mem_singleton.1 hmem]
        exact .inr (.checkScreen (by rw [h]))
    started := fun callback state ho hst => by
      rw [h] at hst
      exact .inl ⟨hst, .inr (.inr (.inr hready))⟩
    callbacks := fun callback state ho hmem => by
      rw [h] at hmem
      rw [hcallbacks] at hmem
      cases hmem
    evalution := fun hev => .inl (by rwa [h] at hev)
    evaluation := fun hev => .inr (by rw [h] at hev ⊢; exact ⟨hev, rfl⟩)
    maint := fun _ hcur => by rw [h] at hcur; cases hcur
    maintNext := fun _ _ => by rw [h]; rintro ⟨⟩
    napNext := .inr (.inl (by rw [h]))
    napDue := fun _ _ hcur => by rw [h] at hcur; cases hcur
    napPhase := fun _ => by rw [h]; exact Nat.zero_le _
    sleepPhase := fun _ => by rw [h]; exact Nat.zero_le _ }

/-- The outcome of `StateManagerAdapter::UnInit` after WORKING has been entered. -/
theorem Outcome.resetStates (hcur : s.curState = .working) :
    Outcome cfg s₀ a s
      { StateManagerAdapter.resetStates cfg s with isServiceReady := false } := by
  obtain ⟨hst, hcb, htasks⟩ := StateManagerAdapter.resetStates_spec cfg s
  obtain ⟨_, _, h⟩ := StateManagerAdapter.resetStates_frame cfg s
  have hcur' : (StateManagerAdapter.resetStates cfg s).curState = s.curState := by rw [h]
  exact {
    crashed := fun hc => by rwa [h] at hc
    curState := .inl (by rw [h]; exact ⟨rfl, rfl⟩)
    ready := .inr (.inr ⟨rfl, by rw [h], hcur'.trans hcur⟩)
    tasks := fun task hmem => .inl ⟨htasks task hmem, .inl hcur'⟩
    started := fun _ _ _ hs => .inl ⟨hst _ hs, .inl hcur'⟩
    callbacks := fun _ _ _ hs => .inl ⟨hcb hs, .inl hcur'⟩
    evalution := fun hev => .inl (by rw [h] at hev; exact hev)
    evaluation := fun hev => .inr (by rw [h] at hev ⊢; exact ⟨hev, rfl⟩)
    maint := fun _ hm => by
      rw [hcur'.trans hcur] at hm
      cases hm
    maintNext := fun _ hne => by rw [h]; exact hne
    napNext := .inl (by rw [h])
    napDue := fun _ _ hn => by
      rw [hcur'.trans hcur] at hn
      cases hn
    napPhase := fun hle => by rw [h]; exact hle
    sleepPhase := fun hle => by rw [h]; exact hle }

/-! ### The outcome of each kind of effect -/

/-- A common event is taken from the queue and recorded. -/
theorem Outcome.record (action : CommonEvent) (queue : List StandbyMessage) :
    Outcome cfg s₀ a s (recordEvent cfg p action { s with handler.queue := queue }) := by
  obtain ⟨hst, hcb⟩ := recordEvent_timeService cfg p action { s with handler.queue := queue }
  obtain ⟨_, _, _, h⟩ := recordEvent_frame cfg p action { s with handler.queue := queue }
  refine .stay ?_ ?_ ?_ ?_ ?_ ?_ ?_ (fun c st ho h => .inl (hst c st ho h))
    (fun _ h => .inl (hcb h)) ?_ ?_ ?_ ?_ ?_ <;> rw [h]
  exacts [fun _ h => .inl h, .inl, fun h => .inr ⟨h, rfl⟩, .inl rfl, id, id]

/-- A state that is blocked starts at most its own timer, and NAP looks for MAINTENANCE. -/
theorem Outcome.block : Outcome cfg s₀ a s (blockCurrentState cfg p s) := by
  have hst : ∀ callback state, callback.owner = some state →
      (blockCurrentState cfg p s).timeService.Started callback →
      s.timeService.Started callback ∨ (state = s.curState ∧ state.HasTimer cfg) :=
    fun callback state ho h => by
      rcases blockCurrentState_started h with h | ⟨rfl, hcur⟩
      · exact .inl h
      · cases ho
        exact .inr ⟨hcur.symm, trivial⟩
  obtain ⟨_, _, _, h⟩ := blockCurrentState_frame cfg p s
  refine .stay ?_ ?_ ?_ ?_ ?_ ?_ ?_ hst ?_ ?_ ?_ (blockCurrentState_nextState cfg p s) ?_ ?_ <;>
    rw [h]
  exacts [fun _ h => .inl h, fun _ h => .inl h, .inl, fun h => .inr ⟨h, rfl⟩, id, id]

/-- The stop of an evaluation. -/
theorem Outcome.stop : Outcome cfg s₀ a s (stopEvalution s) := by
  have htasks : ∀ task ∈ (stopEvalution s).handler.tasks, task ∈ s.handler.tasks ∨
      Posts cfg s₀ a s (stopEvalution s) task := fun _ h => .inl (mem_stopEvalution_tasks h)
  have heval : (stopEvalution s).constraintManager.isEvaluation = true →
      (stopEvalution s).isEvalution = true ∨ (s.constraintManager.isEvaluation = true ∧
        (stopEvalution s).isEvalution = s.isEvalution) := fun h => by
    obtain ⟨hs, hev⟩ := stopEvalution_isEvaluation h
    obtain ⟨_, _, _, _, h⟩ := stopEvalution_frame (s := s)
    exact .inr ⟨hs, by rw [h, hev]⟩
  obtain ⟨_, _, _, _, h⟩ := stopEvalution_frame (s := s)
  refine .stay ?_ ?_ ?_ ?_ ?_ ?_ htasks ?_ ?_ ?_ heval ?_ ?_ ?_ <;> rw [h]
  exacts [fun _ _ _ h => .inl h, fun _ h => .inl h, by rintro ⟨⟩, .inl rfl, id, id]

/-- The end of an evaluation, with the entry of the result. -/
theorem Outcome.finish (entry : Trace) :
    Outcome cfg s₀ a s ((finishEvalution s).log entry) := by
  have htasks : ∀ task ∈ (finishEvalution s).handler.tasks, task ∈ s.handler.tasks ∨
      Posts cfg s₀ a s ((finishEvalution s).log entry) task :=
    fun _ h => .inl (mem_finishEvalution_tasks h)
  obtain ⟨_, _, _, h⟩ := finishEvalution_frame (s := s)
  refine .stay ?_ ?_ ?_ ?_ ?_ ?_ htasks ?_ ?_ ?_ ?_ ?_ ?_ ?_ <;> rw [h]
  exacts [rfl, rfl, rfl, rfl, rfl, rfl, fun _ _ _ h => .inl h, fun _ h => .inl h,
    by rintro ⟨⟩, by rintro ⟨⟩, .inl rfl, id, id]

/-- A change of the half-hour control. -/
theorem Outcome.halfHour (c : Bool) :
    Outcome cfg s₀ a s (onScreenOffHalfHourInner c false s) := by
  obtain ⟨_, _, _, h⟩ := onScreenOffHalfHourInner_frame (c := c) (r := false) (s := s)
  refine .stay ?_ ?_ ?_ ?_ ?_ ?_ ?_ ?_ ?_ ?_ ?_ ?_ ?_ ?_ <;> rw [h]
  exacts [fun _ h => .inl h, fun _ _ _ h => .inl h,
    fun _ h => .inl h, .inl, fun h => .inr ⟨h, rfl⟩, .inl rfl, id, id]

/-- A motion task is added to the tasks. -/
theorem mem_append_motion {task new : Task} {tasks : List Task} (hname : new.name = .motionDection)
    (h : task ∈ tasks ++ [new]) : task ∈ tasks ∨ task.name = .motionDection :=
  (List.mem_append.1 h).imp_right fun h => by rwa [List.mem_singleton.1 h]

/-- Motion tasks are posted, whatever the state, and monitors change. -/
theorem Outcome.motion {tasks : List Task} {monitors : Monitor → MotionSensorMonitor}
    (h : ∀ task ∈ tasks, task ∈ s.handler.tasks ∨ task.name = .motionDection) :
    Outcome cfg s₀ a s { s with monitors, handler.tasks := tasks } :=
  .stay rfl rfl rfl rfl rfl rfl (fun task hmem => (h task hmem).imp_right .motion)
    (fun _ _ _ h => .inl h) (fun _ h => .inl h) .inl (fun h => .inr ⟨h, rfl⟩) (.inl rfl) id id

/-- A result in a phase of NAP posts the task of the next phase. -/
theorem Outcome.napResult (evalResult : Bool) (hcur : s.curState = .nap)
    (hphase : s.napState.curPhase ≠ NapStatePhase.END) :
    Outcome cfg s₀ a s (NapState.setPhaseTransitTask evalResult s) := by
  obtain ⟨_, _, _, h⟩ := NapState.setPhaseTransitTask_frame evalResult s
  have hcur' : (NapState.setPhaseTransitTask evalResult s).curState = .nap := by rw [h, hcur]
  have htasks : ∀ task ∈ (NapState.setPhaseTransitTask evalResult s).handler.tasks,
      task ∈ s.handler.tasks ∨
        Posts cfg s₀ a s (NapState.setPhaseTransitTask evalResult s) task := by
    intro task hmem
    rcases mem_setPhaseTransitTask_tasks hmem with h | rfl
    · exact .inl h
    · exact .inr (.napPhase hcur')
  refine .stay ?_ ?_ ?_ ?_ ?_ ?_ htasks ?_ ?_ ?_ ?_ ?_ ?_ ?_ <;> rw [h]
  exacts [fun _ _ _ h => .inl h, fun _ h => .inl h, .inl,
    fun h => .inr ⟨h, rfl⟩, .inl rfl, fun hle => Nat.lt_of_le_of_ne hle hphase, id]

/-- A result in a phase of SLEEP posts the task of the next phase, or starts the repeated timer. -/
theorem Outcome.sleepResult (evalResult : Bool) (hcur : s.curState = .sleep)
    (hphase : s.sleepState.curPhase < SleepStatePhase.END) :
    Outcome cfg s₀ a s (SleepState.endEvalPhase cfg p evalResult s) := by
  obtain ⟨_, _, _, _, h⟩ := SleepState.endEvalPhase_frame cfg p evalResult s
  have hcur' : (SleepState.endEvalPhase cfg p evalResult s).curState = .sleep := by rw [h, hcur]
  have htasks : ∀ task ∈ (SleepState.endEvalPhase cfg p evalResult s).handler.tasks,
      task ∈ s.handler.tasks ∨
        Posts cfg s₀ a s (SleepState.endEvalPhase cfg p evalResult s) task := by
    intro task hmem
    rcases mem_endEvalPhase_tasks hmem with h | rfl
    · exact .inl h
    · exact .inr (.sleepPhase hcur')
  have hst := started_own cfg s (SleepState.endEvalPhase cfg p evalResult s)
    (by rw [hcur]; rfl) (by rw [hcur]; trivial) fun _ => endEvalPhase_started
  refine .stay ?_ ?_ ?_ ?_ ?_ ?_ htasks hst ?_ ?_ ?_ ?_ ?_ ?_ <;> rw [h]
  exacts [fun _ h => .inl h, .inl, fun h => .inr ⟨h, rfl⟩, .inl rfl, id, fun _ => hphase]

/-- SLEEP begins anew, in its first phase or in the one that a window has interrupted. -/
theorem Outcome.rebegin (hcur : s.curState = .sleep) :
    Outcome cfg s₀ a s (SleepState.beginState cfg p (s.log .sleepRebegun)) := by
  obtain ⟨_, _, _, _, _, h⟩ := SleepState.beginState_frame cfg p (s.log .sleepRebegun)
  have hcur' : (SleepState.beginState cfg p (s.log .sleepRebegun)).curState = .sleep := by
    rw [h]
    exact hcur
  have htasks : ∀ task ∈ (SleepState.beginState cfg p (s.log .sleepRebegun)).handler.tasks,
      task ∈ s.handler.tasks ∨
        Posts cfg s₀ a s (SleepState.beginState cfg p (s.log .sleepRebegun)) task := by
    intro task hmem
    rcases mem_sleepBegin_tasks hmem with h | rfl
    · exact .inl h
    · exact .inr (.sleepPhase hcur')
  obtain ⟨hstarted, hcb⟩ := SleepState.beginState_timeService cfg p (s.log .sleepRebegun)
  have hst := started_own cfg s (SleepState.beginState cfg p (s.log .sleepRebegun))
    (by rw [hcur]; rfl) (by rw [hcur]; trivial) hstarted
  have hphase := (SleepState.beginState_sleepState cfg p (s.log .sleepRebegun)).1
  have hle : s.sleepState.curPhase ≤ SleepStatePhase.END →
      (SleepState.beginState cfg p (s.log .sleepRebegun)).sleepState.curPhase ≤
        SleepStatePhase.END := by
    intro hle
    rw [hphase]
    split_ifs
    · exact hle
    · exact Nat.zero_le _
  refine .stay ?_ ?_ ?_ ?_ ?_ ?_ htasks hst (fun _ h => .inl (hcb ▸ h)) ?_ ?_ ?_ ?_ hle <;> rw [h]
  exacts [rfl, rfl, rfl, rfl, rfl, rfl, .inl, fun h => .inr ⟨h, rfl⟩, .inl rfl, id]

/-- The timers change, and tasks are posted that the effect may post. -/
theorem Outcome.timers {timeService : TimeService} {tasks : List Task}
    (htasks : ∀ task ∈ tasks, task ∈ s.handler.tasks ∨
      Posts cfg s₀ a s { s with timeService, handler.tasks := tasks } task)
    (hstarted : ∀ callback, timeService.Started callback → s.timeService.Started callback)
    (hcallbacks : ∀ callback ∈ timeService.callbacks,
      callback ∈ s.timeService.callbacks ∨ s.timeService.Started callback) :
    Outcome cfg s₀ a s { s with timeService, handler.tasks := tasks } :=
  .stay rfl rfl rfl rfl rfl rfl htasks (fun _ _ _ h => .inl (hstarted _ h)) hcallbacks .inl
    (fun h => .inr ⟨h, rfl⟩) (.inl rfl) id id

/-- A delivered callback posts its task. -/
theorem Outcome.callback {callback : TimerCallback} (hmem : callback ∈ s.timeService.callbacks)
    (hne : callback ≠ .screenOffHalfHour) :
    Outcome cfg s₀ a s (runCallback callback
      { s with timeService.callbacks := s.timeService.callbacks.erase callback }) := by
  obtain ⟨task, h, htask⟩ := runCallback_frame (s := { s with
    timeService.callbacks := s.timeService.callbacks.erase callback }) hne
  rw [h]
  refine .timers (fun _ h => ?_) (fun callback h => ?_)
    fun _ h => .inl (List.mem_of_mem_erase h)
  · rcases List.mem_append.1 h with h | h
    · exact .inl h
    · right
      rw [List.mem_singleton.1 h]
      rcases htask with ⟨rfl, rfl⟩ | ⟨state, rfl, rfl⟩
      · exact .repeated rfl hmem
      · exact .transit rfl hmem
  · cases callback <;> exact h

/-- A timer that is started elapses. -/
theorem Outcome.fire {callback : TimerCallback} (h : timerFire callback s = some t) :
    Outcome cfg s₀ a s t := by
  obtain ⟨hfired, hcb, hst⟩ := timerFire_spec h
  obtain ⟨_, rfl⟩ := timerFire_frame h
  refine .timers (fun _ h => .inl h) hst fun c h => ?_
  rw [hcb] at h
  rcases List.mem_cons.1 h with rfl | h
  · exact .inr hfired
  · exact .inl h

/-- What every effect can do. -/
theorem Effect.outcome (h : Effect cfg s₀ a s t) : Outcome cfg s₀ a s t := by
  cases h with
  | transit p h => exact .transit h
  | record => exact .record _ _
  | block p => exact .block
  | stop => exact .stop
  | finish => exact .finish _
  | halfHour c => exact .halfHour c
  | startRejected hreq hbusy =>
    exact .stay rfl rfl rfl rfl rfl rfl (fun _ h => .inl h) (fun _ _ _ h => .inl h)
      (fun _ h => .inl h) (fun _ => .inr ⟨_, hreq⟩) (fun _ => .inl rfl) (.inl rfl) id id
  | startAccepted hreq hidle =>
    exact .stay rfl rfl rfl rfl rfl rfl (fun _ h => .inl h) (fun _ _ _ h => .inl h)
      (fun _ h => .inl h) (fun _ => .inr ⟨_, hreq⟩) (fun _ => .inl rfl) (.inl rfl) id id
  | startMotion | sensorEvent => exact .motion fun _ => mem_append_motion rfl
  | startSensor =>
    refine .motion fun task hmem => ?_
    exact (mem_append_motion rfl hmem).elim (mem_append_motion rfl) .inr
  | napPhase _ hcur hphase => exact .napResult _ hcur hphase
  | sleepPhase p _ hcur hphase => exact .sleepResult _ hcur hphase
  | rebegin _ hcur => exact .rebegin hcur
  | holdTimers =>
    refine .timers (fun _ h => .inl h) (fun _ h => ?_) fun _ h => .inl ?_
    · exact (stopTransitTimedTask_started (stopRepeatedTimedTask_started h).1).1
    · exact (stopTransitTimedTask_callbacks (stopRepeatedTimedTask_callbacks h).1).1
  | takeTask =>
    exact .timers (fun _ h => .inl (List.mem_of_mem_erase h)) (fun _ h => h) fun _ h => .inl h
  | callback hmem _ hne => exact .callback hmem hne
  | takeHalfHour =>
    refine .timers (fun _ h => .inl h) (fun callback h => ?_)
      fun _ h => .inl (List.mem_of_mem_erase h)
    cases callback <;> exact h
  | fire h => exact .fire h
  | init hready hcallbacks htasks => exact .init hready hcallbacks htasks
  | unInitConstraints =>
    exact .stay rfl rfl rfl rfl rfl rfl (fun _ h => .inl h) (fun _ _ _ h => .inl h)
      (fun _ h => .inl h) .inl (by rintro ⟨⟩) (.inl rfl) id id
  | resetStates _ hcur => exact .resetStates hcur
  | unblock | startSensorFailed | setRepeated | runningLock | sleepFlag | skip | stopDetection
  | post | conditionChanged =>
    exact .stay rfl rfl rfl rfl rfl rfl (fun _ h => .inl h) (fun _ _ _ h => .inl h)
      (fun _ h => .inl h) .inl (fun h => .inr ⟨h, rfl⟩) (.inl rfl) id id

/-! ## Steps and runs -/

/-- No effect brings a process back that has ended. -/
theorem Chain.alive (h : Chain cfg s₀ a s t) (ht : t.crashed = false) : s.crashed = false :=
  Lts.chain_invariant (I := fun u => u.crashed = false → s.crashed = false) h
    (fun he ih hu => ih (he.outcome.crashed hu)) id ht

/-- The rule for a step: what its effects keep, the step keeps. -/
theorem step_invariant {I : Service → Prop} (hown : OwnTasks s₀)
    (h : (system cfg).step s₀ a = some t) (hs : I s₀)
    (hE : ∀ {s u}, Chain cfg s₀ a s₀ s → Effect cfg s₀ a s u → u.crashed = false → I s → I u) :
    I t := by
  obtain ⟨hact, halive⟩ := (system_step_iff cfg).1 h
  have hchain := chain_act hown hact
  clear h hact
  induction hchain with
  | refl => exact hs
  | tail hc he ih => exact hE hc he halive (ih (he.outcome.crashed halive))

/-- An effect leaves a state's own tasks to the state. -/
theorem OwnTasks.effect (he : Effect cfg s₀ a s t) (h : OwnTasks s) : OwnTasks t := by
  have htasks := he.outcome.tasks
  refine ⟨fun hmem => ?_, fun acquire hmem => ?_, fun acquire hmem => ?_⟩ <;>
    rcases htasks _ hmem with ⟨hs, hcur⟩ | hnew
  · have hw := h.checkScreen hs
    rcases hcur with hcur | hcur
    · rw [hcur, hw]
    · exact absurd (by rw [hw]; decide) hcur
  · cases hnew with
    | checkScreen hcur => exact hcur
    | motion hname => cases hname
  · have hn := h.napPhase _ hs
    rcases hcur with hcur | hcur
    · rw [hcur, hn]
    · exact absurd (by rw [hn]; simp [endedTasks, Task.name]) hcur
  · cases hnew with
    | napPhase hcur => exact hcur
    | motion hname => cases hname
  · have hn := h.sleepPhase _ hs
    rcases hcur with hcur | hcur
    · rw [hcur, hn]
    · exact absurd (by rw [hn]; simp [endedTasks, Task.name]) hcur
  · cases hnew with
    | sleepPhase hcur => exact hcur
    | motion hname => cases hname

section
variable {ok : Service → Action → Prop}

/-- A state's own tasks are pending in that state only, in every run. -/
theorem ownTasks_reachable (h : Lts.ReachableUnder (system cfg) ok s) : OwnTasks s :=
  have h0 : OwnTasks {} := ⟨nofun, fun _ => nofun, fun _ => nofun⟩
  h.invariant (I := OwnTasks) h0 fun _ _ hs hi =>
    step_invariant hi hs hi fun _ he _ => OwnTasks.effect he

/-- The rule for a run: what the effects of its steps keep holds in every state it reaches. -/
theorem run_invariant {I : Service → Prop} (h0 : I {})
    (hE : ∀ {s₀ a s t}, Lts.ReachableUnder (system cfg) ok s₀ → ok s₀ a → I s₀ →
      Chain cfg s₀ a s₀ s → Effect cfg s₀ a s t → t.crashed = false → I s → I t)
    (h : Lts.ReachableUnder (system cfg) ok s) : I s :=
  h.invariant (I := I) h0 fun hr hok hs hi =>
    step_invariant (I := I) (ownTasks_reachable hr) hs hi fun hc he halive =>
      hE hr hok hi hc he halive

/-- What holds in every run: the state objects live while the service is ready, WORKING is current
while it is not, the phases stay within their bounds, and the constraint manager evaluates only
while the state manager does. -/
structure Basic (s : Service) : Prop where
  alive : s.statesAlive = s.isServiceReady
  notReady : s.isServiceReady = false → s.curState = .working
  napPhase : s.napState.curPhase ≤ NapStatePhase.END
  sleepPhase : s.sleepState.curPhase ≤ SleepStatePhase.END
  napNext : s.napState.nextState = .nap ∨ s.napState.nextState = .sleep ∨
    s.napState.nextState = .maintenance
  evaluation : s.constraintManager.isEvaluation = true → s.isEvalution = true

/-- Only a service that is ready leaves WORKING. -/
theorem Basic.ready (h : Basic s) (hne : s.curState ≠ .working) : s.isServiceReady = true := by
  cases hready : s.isServiceReady with
  | true => rfl
  | false => exact absurd (h.notReady hready) hne

/-- It holds before the first action. -/
theorem Basic.init : Basic {} :=
  ⟨rfl, fun _ => rfl, Nat.zero_le _, Nat.zero_le _, .inl rfl, nofun⟩

/-- An effect keeps `Basic`. -/
theorem Basic.effect (he : Effect cfg s₀ a s t) (halive : t.crashed = false) (h : Basic s) :
    Basic t where
  alive := by
    rcases he.outcome.ready with ⟨h1, h2⟩ | ⟨h1, h2, -⟩ | ⟨h1, h2, -⟩
    · rw [h1, h2, h.alive]
    · rw [h1, h2]
    · rw [h1, h2]
  notReady := fun hready => by
    rcases he.outcome.ready with ⟨h1, -⟩ | ⟨h1, -⟩ | ⟨-, -, hcur⟩
    · rw [h1] at hready
      rcases he.outcome.curState with ⟨hcur, -⟩ | ⟨p, nextState, -, rfl⟩ | ⟨p, -, rfl⟩
      · rw [hcur, h.notReady hready]
      · -- without state objects a transition ends the process
        have := (transitToStateInner_alive halive).2
        rw [h.alive, hready] at this
        cases this
      · obtain ⟨_, _, hinit⟩ := initReadyState_frame cfg p hready
        rw [hinit]
    · rw [h1] at hready
      cases hready
    · exact hcur
  napPhase := he.outcome.napPhase h.napPhase
  sleepPhase := he.outcome.sleepPhase h.sleepPhase
  napNext := by
    rcases he.outcome.napNext with h' | h'
    · rw [h']
      exact h.napNext
    · exact h'
  evaluation := fun hev => by
    rcases he.outcome.evaluation hev with h' | ⟨h', heq⟩
    · exact h'
    · rw [heq]
      exact h.evaluation h'

/-- It holds in every run. -/
theorem basic_reachable (h : Lts.ReachableUnder (system cfg) ok s) : Basic s :=
  run_invariant .init
    (fun _ _ _ _ he halive hi => Basic.effect he halive hi) h

end

/-! ## Transition timers -/

/-- What holds of the transition timers in every run, with callbacks in flight or not: none is for
WORKING, or for a DARK without a next state, and MAINTENANCE does not return to DARK. -/
structure Timed (cfg : StandbyConfig) (s : Service) : Prop where
  started : ∀ state, s.timeService.Started (.startTransitNextState state) → state.HasTimer cfg
  callbacks : ∀ state, .startTransitNextState state ∈ s.timeService.callbacks → state.HasTimer cfg
  tasks : ∀ state, .transitNextState state ∈ s.handler.tasks → state.HasTimer cfg
  maintNext : s.maintState.nextState ≠ .dark

/-- An effect keeps `Timed`. -/
theorem Timed.effect (he : Effect cfg s₀ a s t) (halive : t.crashed = false) (h : Timed cfg s) :
    Timed cfg t where
  started state hst := by
    rcases he.outcome.started _ state rfl hst with ⟨hs, -⟩ | ⟨-, hnew⟩
    · exact h.started state hs
    · exact hnew
  callbacks state hmem := by
    rcases he.outcome.callbacks _ state rfl hmem with ⟨hs, -⟩ | ⟨hs, -⟩
    · exact h.callbacks state hs
    · exact h.started state hs
  tasks state hmem := by
    rcases he.outcome.tasks _ hmem with ⟨hs, -⟩ | hnew
    · exact h.tasks state hs
    · cases hnew with
      | transit _ hmem => exact h.callbacks state hmem
      | motion hname => cases hname
  maintNext := he.outcome.maintNext halive h.maintNext

/-- It holds in every run. -/
theorem timed_reachable {ok : Service → Action → Prop}
    (h : Lts.ReachableUnder (system cfg) ok s) : Timed cfg s :=
  run_invariant (I := Timed cfg) ⟨fun _ hst => absurd rfl hst, nofun, nofun, nofun⟩
    (fun _ _ _ _ he halive hi => hi.effect he halive) h

/-- No transition task asks for DARK. -/
theorem Timed.nextStateOf (h : Timed cfg s) (hb : Basic s) {state : StandbyState}
    (hmem : .transitNextState state ∈ s.handler.tasks) : nextStateOf cfg state s ≠ .dark := by
  have htimer := h.tasks state hmem
  cases state with
  | working => exact htimer.elim
  | dark => exact htimer
  | nap => rcases hb.napNext with hn | hn | hn <;> simp [DeviceStandby.nextStateOf, hn]
  | maintenance => exact h.maintNext
  | sleep => rintro ⟨⟩

/-! ## Timers that belong to the current state -/

/-- What holds when `StopTimer` leaves no callback in flight: timers, callbacks and timed tasks are
those of the current state, and MAINTENANCE returns to the state it was entered from and is never
evaluating. -/
structure Scheduled (s : Service) : Prop where
  started : ∀ callback state, callback.owner = some state → s.timeService.Started callback →
    state = s.curState ∧ state ≠ .working
  callbacks : ∀ callback state, callback.owner = some state →
    callback ∈ s.timeService.callbacks → state = s.curState ∧ state ≠ .working
  transit : ∀ state, .transitNextState state ∈ s.handler.tasks →
    state = s.curState ∧ state ≠ .working
  repeated : .repeatedDetection ∈ s.handler.tasks → s.curState = .sleep
  maintNext : s.curState = .maintenance → s.maintState.nextState = s.preState
  maintPre : s.curState = .maintenance → s.preState = .nap ∨ s.preState = .sleep
  maintIdle : s.curState = .maintenance → s.isEvalution = false

/-- A transition task asks for MAINTENANCE in NAP or SLEEP. -/
theorem Scheduled.asked_maintenance (h₀ : Scheduled s₀) (h : Asked cfg s₀ a s .maintenance) :
    s.curState = .nap ∨ s.curState = .sleep := by
  generalize hn : StandbyState.maintenance = nextState at h
  cases h with
  | wake => cases hn
  | dark => cases hn
  | @task state _ _ hmem hsame =>
    obtain ⟨hcur, hne⟩ := h₀.transit state hmem
    rw [hsame.curState, ← hcur]
    cases state with
    | working => exact absurd rfl hne
    | dark => exact absurd hn.symm darkNextState_ne_maintenance
    | nap => exact .inl rfl
    | maintenance =>
      rw [nextStateOf, h₀.maintNext hcur.symm] at hn
      rcases h₀.maintPre hcur.symm with h | h <;> rw [h] at hn <;> cases hn
    | sleep => exact .inr rfl

/-- MAINTENANCE is entered from NAP or SLEEP, when no evaluation is running. -/
theorem Scheduled.transition_maintenance (h₀ : Scheduled s₀)
    (h : Transition cfg s₀ a s .maintenance) :
    (s.curState = .nap ∨ s.curState = .sleep) ∧ s.isEvalution = false := by
  generalize hn : StandbyState.maintenance = nextState at h
  cases h with
  | exit _ _ hnext => exact absurd hn.symm hnext
  | maint hask _ _ _ hev =>
    subst hn
    exact ⟨h₀.asked_maintenance hask, hev.resolve_left nofun⟩
  | workingResult => cases hn
  | darkResult => exact absurd hn.symm darkNextState_ne_maintenance
  | napResult => cases hn
  | hold => cases hn

/-- Nothing is evaluated for MAINTENANCE. -/
theorem Scheduled.request_maintenance {params : ConstraintEvalParam} (h₀ : Scheduled s₀)
    (hown : OwnTasks s₀) (h : Request cfg s₀ a s params) : s.curState ≠ .maintenance := by
  cases h with
  | enter _ hcur => exact hcur
  | napPhase _ hmem hsame => rw [hsame.curState, hown.napPhase _ hmem]; decide
  | sleepPhase _ hmem hsame => rw [hsame.curState, hown.sleepPhase _ hmem]; decide
  | repeated _ hmem hsame => rw [hsame.curState, h₀.repeated hmem]; decide

/-- An effect keeps `Scheduled`. -/
theorem Scheduled.effect (hdrains : cfg.stopTimerDrains = true) (hown : OwnTasks s₀)
    (h₀ : Scheduled s₀) (he : Effect cfg s₀ a s t) (halive : t.crashed = false) (hb : Basic s)
    (h : Scheduled s) : Scheduled t := by
  have hstarted : ∀ callback state, callback.owner = some state →
      t.timeService.Started callback → state = t.curState ∧ state ≠ .working :=
    fun callback state ho hst => by
      rcases he.outcome.started callback state ho hst with ⟨hs, hcur⟩ | hnew
      · obtain ⟨hstate, hne⟩ := h.started callback state ho hs
        rcases hcur with hcur | hcur | hcur | hready
        · exact ⟨hcur ▸ hstate, hne⟩
        · exact absurd hstate hcur
        · exact absurd (hstate.trans hcur) hne
        · exact absurd (hstate.trans (hb.notReady hready)) hne
      · exact ⟨hnew.1, hnew.2.ne_working⟩
  have hcallbacks : ∀ callback state, callback.owner = some state →
      callback ∈ t.timeService.callbacks → state = t.curState ∧ state ≠ .working :=
    fun callback state ho hmem => by
      rcases he.outcome.callbacks callback state ho hmem with ⟨hs, hcur⟩ | ⟨hs, hcur⟩
      · obtain ⟨hstate, hne⟩ := h.callbacks callback state ho hs
        rcases hcur with hcur | hcur | hcur | hcur
        · exact ⟨hcur ▸ hstate, hne⟩
        · rw [hdrains] at hcur
          cases hcur
        · exact absurd hstate hcur
        · exact absurd (hstate.trans hcur) hne
      · obtain ⟨hstate, hne⟩ := h.started callback state ho hs
        exact ⟨hcur ▸ hstate, hne⟩
  have htransit : ∀ state, .transitNextState state ∈ t.handler.tasks →
      state = t.curState ∧ state ≠ .working := fun state hmem => by
    rcases he.outcome.tasks _ hmem with ⟨hs, hcur⟩ | hnew
    · obtain ⟨hstate, hne⟩ := h.transit state hs
      refine ⟨?_, hne⟩
      rcases hcur with hcur | hcur
      · exact hcur ▸ hstate
      · exact absurd (by rw [← hstate]; cases state <;> simp_all [endedTasks, Task.name]) hcur
    · cases hnew with
      | transit hcur hmem =>
        obtain ⟨hstate, hne⟩ := h.callbacks _ state rfl hmem
        exact ⟨hcur ▸ hstate, hne⟩
      | motion hname => cases hname
  have hrepeated : .repeatedDetection ∈ t.handler.tasks → t.curState = .sleep := fun hmem => by
    rcases he.outcome.tasks _ hmem with ⟨hs, hcur⟩ | hnew
    · have hsleep := h.repeated hs
      rcases hcur with hcur | hcur
      · exact hcur.trans hsleep
      · exact absurd (by rw [hsleep]; decide) hcur
    · cases hnew with
      | repeated hcur hmem => exact hcur.trans (h.callbacks _ .sleep rfl hmem).1.symm
      | motion hname => cases hname
  -- MAINTENANCE was current before, or this effect is the transition to it
  have hmaint : t.curState = .maintenance → (s.curState = .maintenance ∧ t.preState = s.preState) ∨
      ((t.preState = .nap ∨ t.preState = .sleep) ∧ t.isEvalution = false) := fun hcur => by
    rcases he.outcome.curState with ⟨hc, hp⟩ | ⟨p, nextState, htr, rfl⟩ | ⟨p, hready, rfl⟩
    · exact .inl ⟨hc ▸ hcur, hp⟩
    · right
      obtain ⟨_, _, _, _, _, _, _, _, _, hframe⟩ :=
        transitToStateInner_frame cfg p nextState s
      have hnext : nextState = .maintenance := by simpa using hcur
      subst hnext
      obtain ⟨hpre, hev⟩ := h₀.transition_maintenance htr
      rw [hframe]
      exact ⟨hpre, hev⟩
    · obtain ⟨_, _, hinit⟩ := initReadyState_frame cfg p hready
      rw [hinit] at hcur
      cases hcur
  refine ⟨hstarted, hcallbacks, htransit, hrepeated, fun hcur => ?_, fun hcur => ?_,
    fun hcur => ?_⟩
  · rcases he.outcome.maint halive hcur with hnext | ⟨hc, hpre, hstate⟩
    · exact hnext
    · rw [hstate, hpre, h.maintNext hc]
  · rcases hmaint hcur with ⟨hc, hpre⟩ | ⟨hpre, -⟩
    · rw [hpre]
      exact h.maintPre hc
    · exact hpre
  · rcases hmaint hcur with ⟨hc, -⟩ | ⟨-, hev⟩
    · refine Bool.eq_false_iff.2 fun hev => ?_
      rcases he.outcome.evalution hev with hev | ⟨_, hreq⟩
      · rw [h.maintIdle hc] at hev
        cases hev
      · exact h₀.request_maintenance hown hreq hc
    · exact hev

/-- In every run, when `StopTimer` leaves no callback in flight. -/
theorem scheduled_reachable (hdrains : cfg.stopTimerDrains = true)
    {ok : Service → Action → Prop} (h : Lts.ReachableUnder (system cfg) ok s) : Scheduled s := by
  have h0 : Basic {} ∧ Scheduled {} := by
    refine ⟨.init, ?_⟩
    refine ⟨fun callback _ ho hst => ?_, nofun, nofun, nofun, nofun, nofun, nofun⟩
    cases callback with
    | startTransitNextState | startPeriodlyMotionDetection => exact absurd rfl hst
    | screenOffHalfHour => cases ho
  exact (run_invariant (I := fun s => Basic s ∧ Scheduled s) h0
    (fun hr _ h₀ _ he halive hi => ⟨hi.1.effect he halive,
      Scheduled.effect hdrains (ownTasks_reachable hr) h₀.2 he halive hi.1 hi.2⟩) h).2

end

end DeviceStandby
