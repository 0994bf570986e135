import DeviceStandby.State.Graph
import DeviceStandby.State.Hold
import DeviceStandby.State.Requests
import DeviceStandby.State.SleepPhases

/-!
# Maintenance without intervals

`CalculateMaintTimeOut` answers 0 when no interval is configured, and no window must be opened then.
NAP, and the return to SLEEP, take 0 for that. The first entry of SLEEP starts its timer with it,
and the window opens at once: `sleep_window_opens`. `no_window_without_intervals` is about the runs
in which that timer does not start, and says what follows when it does.
-/

namespace DeviceStandby

open Relation

/-- A transition task of another state than the current one runs, and asks for `nextState`. -/
def Strays (cfg : StandbyConfig) (s : Service) (a : Action) (nextState : StandbyState) : Prop :=
  ∃ state p, a = .runTask (.transitNextState state) p ∧ .transitNextState state ∈ s.handler.tasks ∧
    state ≠ s.curState ∧ nextStateOf cfg state s = nextState

/-- A user-sleep-false event begins SLEEP anew. -/
def RebeginsSleep (s : Service) (a : Action) : Prop :=
  Handles s a (.userSleepStateChanged (some false)) ∧ s.curState = .sleep ∧ s.isScreenOn = false

/-- No task of another state moves the device between NAP and MAINTENANCE. -/
structure NapUndisturbed (cfg : StandbyConfig) (s : Service) (a : Action) : Prop where
  enter : s.curState = .nap → ¬ Strays cfg s a .maintenance
  leave : s.curState = .maintenance → ¬ Strays cfg s a .nap

/-- A task makes a request while the constraint manager evaluates no other. A transition task stops
any evaluation first. -/
inductive Requests (cfg : StandbyConfig) (s : Service) : Task → ConstraintEvalParam → Prop where
  | transit {state : StandbyState} (henters : Enters cfg s state) :
      Requests cfg s (.transitNextState state)
        ⟨s.curState, s.curInnerPhase, nextStateOf cfg state s, 0, false⟩
  | napPhase {acquire : Bool} (hidle : s.constraintManager.isEvaluation = false) :
      Requests cfg s (.transitToNapPhase acquire)
        ⟨.nap, s.napState.curPhase, .nap, s.napState.curPhase + 1, false⟩
  | repeated (hidle : s.constraintManager.isEvaluation = false) :
      Requests cfg s .repeatedDetection
        ⟨.sleep, s.sleepState.curPhase, .sleep, s.sleepState.curPhase, true⟩

/-- An evaluation succeeds when a task runs: its total timeout, or one whose request has no
monitor. -/
def Succeeds (cfg : StandbyConfig) (s : Service) (task : Task) : Prop :=
  (task = .motionTotalTimeOut ∧ s.isEvalution = true) ∨
    ∃ params, Requests cfg s task params ∧
      s.constraintManager.constraintMap.lookup params.getHashValue = none

/-- The state takes the success of an evaluation for SLEEP. -/
def LeadsToSleep (cfg : StandbyConfig) (s : Service) : Prop :=
  s.curState = .nap ∧ s.napState.curPhase = NapStatePhase.END ∧ s.napState.nextState ≠ .nap ∨
    s.curState = .dark ∧ cfg.darkNextState = .sleep

/-- Whenever SLEEP is begun for the first time and not held at once, its timer does not start; and
no task of another state takes it to MAINTENANCE. -/
structure SleepUnarmed (cfg : StandbyConfig) (s : Service) (a : Action) : Prop where
  entered : LeadsToSleep cfg s → ∀ task p, a = .runTask task p → Succeeds cfg s task →
    p.startTimer .sleep = false
  rebegun : RebeginsSleep s a → ∀ p, a.platform? = some p → p.startTimer .sleep = true →
    s.preState = .maintenance
  enter : s.curState = .sleep → ¬ Strays cfg s a .maintenance

section
variable {cfg : StandbyConfig} {s₀ : Service} {a : Action} {p : Platform} {s t : Service}
  {nextState state : StandbyState} {action : CommonEvent}

/-! ## The timer of SLEEP -/

/-- There is no way out of SLEEP by its timer. -/
structure TimerIdle (s : Service) : Prop where
  started : ¬ s.timeService.Started (.startTransitNextState .sleep)
  callbacks : .startTransitNextState .sleep ∉ s.timeService.callbacks
  tasks : .transitNextState .sleep ∉ s.handler.tasks

/-- Without intervals, beginning SLEEP starts its timer on its first entry only. -/
theorem SleepState.beginState_started (hempty : cfg.sleepMaintDuration = [])
    (h : (SleepState.beginState cfg p s).timeService.Started (.startTransitNextState .sleep)) :
    s.timeService.Started (.startTransitNextState .sleep) ∨
      (s.preState ≠ .maintenance ∧ p.startTimer .sleep = true) := by
  have htimeOut : ∀ index isFirstInterval,
      calculateMaintTimeOut p cfg.sleepMaintDuration index isFirstInterval = (0, index) := by
    intro index isFirstInterval
    rw [calculateMaintTimeOut, hempty]
    rfl
  by_cases hpre : s.preState = .maintenance
  · left
    unfold SleepState.beginState at h
    dsimp only at h
    rw [if_pos hpre, htimeOut, if_neg (by simp)] at h
    exact h
  · by_cases hstart : p.startTimer .sleep = true
    · exact .inr ⟨hpre, hstart⟩
    · left
      unfold SleepState.beginState SleepState.checkScrenOffHalfHour at h
      dsimp only at h
      rw [if_neg hpre] at h
      split_ifs at h
      · rw [onScreenOffHalfHourInner_timeService] at h
        simpa [startStateTransitionTimer, hstart, Service.postTask, TimeService.Started] using h
      · simpa [startStateTransitionTimer, hstart, Service.postTask, TimeService.Started] using h

/-- A transition starts the timer of SLEEP when it enters SLEEP from another state than
MAINTENANCE. -/
theorem transit_started_sleep (hempty : cfg.sleepMaintDuration = [])
    (h : (transitToStateInner cfg p nextState s).timeService.Started
      (.startTransitNextState .sleep)) :
    s.timeService.Started (.startTransitNextState .sleep) ∨
      (nextState = .sleep ∧ s.curState ≠ .maintenance ∧ p.startTimer .sleep = true) := by
  by_cases hnext : nextState = .sleep
  · subst hnext
    unfold transitToStateInner at h
    dsimp only at h
    split_ifs at h
    · have h : (SleepState.beginState cfg p (replaceState cfg .sleep s)).timeService.Started
          (.startTransitNextState .sleep) := h
      rcases SleepState.beginState_started hempty h with h | ⟨hpre, hstart⟩
      · exact .inl (endState_started h).1
      · exact .inr ⟨rfl, hpre, hstart⟩
    · exact .inl (endState_started h).1
  · rcases transit_started h with ⟨h, -⟩ | ⟨heq, -⟩
    · exact .inl h
    · cases heq
      exact absurd rfl hnext

/-- Blocking a state starts no timer of SLEEP, and without intervals leaves NAP as it is. -/
theorem blockCurrentState_spec (cfg : StandbyConfig) (p : Platform) (s : Service) :
    ((blockCurrentState cfg p s).timeService.Started (.startTransitNextState .sleep) →
      s.timeService.Started (.startTransitNextState .sleep)) ∧
    (cfg.napMaintDuration = [] → (blockCurrentState cfg p s).napState = s.napState) := by
  unfold blockCurrentState
  dsimp only
  split
  · unfold NapState.onStateBlocked
    dsimp only
    refine ⟨fun h => ?_, fun hempty => ?_⟩
    · split_ifs at h
      · exact (startStateTransitionTimer_started h).resolve_right nofun
      · exact h
    · rw [if_neg (by rw [calculateMaintTimeOut, hempty]; simp)]
      rfl
  · exact ⟨id, fun _ => rfl⟩

/-- The timer of SLEEP starts, and the next states of NAP and MAINTENANCE change, with a transition;
the timer also when SLEEP is begun anew. -/
theorem Effect.begins (he : Effect cfg s₀ a s t) :
    (∃ p nextState, a.platform? = some p ∧ Transition cfg s₀ a s nextState ∧
      t = transitToStateInner cfg p nextState s) ∨
    ((t.timeService.Started (.startTransitNextState .sleep) →
        s.timeService.Started (.startTransitNextState .sleep) ∨ RebeginsSleep s₀ a) ∧
      (cfg.napMaintDuration = [] → t.napState.nextState = .maintenance →
        s.napState.nextState = .maintenance) ∧
      (t.maintState.nextState = .nap → s.maintState.nextState = .nap)) := by
  cases he with
  | transit p h hp => exact .inl ⟨p, _, hp, h, rfl⟩
  | @rebegin p _ ha hcur hsame hpre hev hscreen =>
    obtain ⟨_, _, _, _, _, hf⟩ := SleepState.beginState_frame cfg p (s.log .sleepRebegun)
    rw [hf]
    exact .inr ⟨fun _ => .inr ⟨ha, hsame ▸ hcur, hscreen⟩, fun _ => id, id⟩
  | @record _ action queue p ha hqueue hs =>
    obtain ⟨hstarted, -⟩ := recordEvent_timeService cfg p action { s with handler.queue := queue }
    obtain ⟨_, _, _, hf⟩ := recordEvent_frame cfg p action { s with handler.queue := queue }
    exact .inr ⟨fun h => .inl (hstarted _ .sleep rfl h), fun _ h => by rwa [hf] at h,
      fun h => by rwa [hf] at h⟩
  | block p =>
    obtain ⟨hstarted, hnap⟩ := blockCurrentState_spec cfg p s
    obtain ⟨_, _, _, hf⟩ := blockCurrentState_frame cfg p s
    exact .inr ⟨fun h => .inl (hstarted h), fun hempty h => by rwa [hnap hempty] at h,
      fun h => by rwa [hf] at h⟩
  | stop =>
    obtain ⟨_, _, _, _, hf⟩ := stopEvalution_frame (s := s)
    rw [hf]
    exact .inr ⟨.inl, fun _ => id, id⟩
  | finish =>
    obtain ⟨_, _, _, hf⟩ := finishEvalution_frame (s := s)
    rw [hf]
    exact .inr ⟨.inl, fun _ => id, id⟩
  | halfHour c =>
    obtain ⟨_, _, _, hf⟩ := onScreenOffHalfHourInner_frame (c := c) (r := false) (s := s)
    rw [hf]
    exact .inr ⟨.inl, fun _ => id, id⟩
  | @napPhase _ evalResult =>
    obtain ⟨_, _, _, hf⟩ := NapState.setPhaseTransitTask_frame evalResult s
    rw [hf]
    exact .inr ⟨.inl, fun _ => id, id⟩
  | @sleepPhase p _ evalResult =>
    obtain ⟨_, _, _, _, hf⟩ := SleepState.endEvalPhase_frame cfg p evalResult s
    rw [hf]
    exact .inr ⟨.inl, fun _ => id, id⟩
  | holdTimers =>
    refine .inr ⟨fun h => .inl ?_, fun _ => id, id⟩
    exact (stopTransitTimedTask_started (stopRepeatedTimedTask_started h).1).1
  | callback _ _ hne =>
    obtain ⟨_, hrun, -⟩ := runCallback_frame (s := { s with
      timeService.callbacks := s.timeService.callbacks.erase _ }) hne
    rw [hrun]
    exact .inr ⟨.inl, fun _ => id, id⟩
  | fire hfire =>
    obtain ⟨-, -, hstarted⟩ := timerFire_spec hfire
    obtain ⟨_, rfl⟩ := timerFire_frame hfire
    exact .inr ⟨fun h => .inl (hstarted _ h), fun _ => id, id⟩
  | @init p _ hready =>
    obtain ⟨_, _, hf⟩ := initReadyState_frame cfg p hready
    rw [hf]
    refine .inr ⟨.inl, fun _ hn => ?_, fun hn => ?_⟩ <;> cases hn
  | resetStates =>
    obtain ⟨hstarted, -⟩ := StateManagerAdapter.resetStates_spec cfg s
    obtain ⟨_, _, hf⟩ := StateManagerAdapter.resetStates_frame cfg s
    exact .inr ⟨fun h => .inl (hstarted _ h), fun _ h => by rwa [hf] at h,
      fun h => by rwa [hf] at h⟩
  | unblock | startRejected | startAccepted | startMotion | startSensor | startSensorFailed
  | setRepeated | runningLock | sleepFlag | skip | takeTask | stopDetection | takeHalfHour
  | sensorEvent | post | conditionChanged | unInitConstraints =>
    exact .inr ⟨.inl, fun _ => id, id⟩

/-! ## Ways into a window -/

/-- MAINTENANCE is entered, and left for NAP, by a transition task. -/
theorem Transition.asks_window (h : Transition cfg s₀ a s nextState)
    (hwindow : nextState = .maintenance ∨ (s.curState = .maintenance ∧ nextState = .nap)) :
    ∃ state p, a = .runTask (.transitNextState state) p ∧
      .transitNextState state ∈ s₀.handler.tasks ∧ s.curState = s₀.curState ∧
      nextStateOf cfg state s₀ = nextState := by
  cases h with
  | exit _ hcur hnext => exact hwindow.elim (absurd · hnext) fun hw => absurd hw.1 hcur
  | maint hask =>
    cases hask with
    | wake | dark => rcases hwindow with hw | ⟨-, hw⟩ <;> cases hw
    | @task state p ha hmem hsame => exact ⟨state, p, ha, hmem, hsame.curState, rfl⟩
  | workingResult | napResult | hold => rcases hwindow with hw | ⟨-, hw⟩ <;> cases hw
  | darkResult _ hcur =>
    rcases hwindow with hw | ⟨hw, -⟩
    · exact absurd hw darkNextState_ne_maintenance
    · rw [hcur] at hw
      cases hw

/-- A transition that an effect adds to the history is one that it makes. -/
theorem Effect.transited_mem {preState : StandbyState} (he : Effect cfg s₀ a s t)
    (halive : t.crashed = false) (hmem : .transited preState nextState ∈ t.trace) :
    .transited preState nextState ∈ s.trace ∨
      (preState = s.curState ∧ Transition cfg s₀ a s nextState) := by
  obtain ⟨entries, htrace, hist⟩ := he.history halive
  rw [htrace] at hmem
  refine (List.mem_append.1 hmem).symm.imp_right fun hnew => ?_
  rcases hist.isStateChange with hnone | ⟨p, next, htr, rfl⟩
  · cases hnone _ hnew
  · obtain ⟨silent, hsilent, hown⟩ :=
      transitToStateInner_trace cfg p next (transitToStateInner_alive halive).2
    obtain rfl := List.append_cancel_right (htrace.symm.trans hown)
    rcases List.mem_append.1 hnew with hm | hm
    · split_ifs at hm
      · cases List.mem_singleton.1 hm
      · cases hm
    · rcases List.mem_append.1 hm with hm | hm
      · cases hsilent.isStateChange _ hm
      · cases List.mem_singleton.1 hm
        exact ⟨rfl, htr⟩

/-! ## NAP -/

/-- NAP leads to no window. -/
structure NapClosed (s : Service) : Prop where
  napNext : s.napState.nextState ≠ .maintenance
  maintNext : s.maintState.nextState ≠ .nap
  history : .transited .nap .maintenance ∉ s.trace

/-- A task that moves the device between NAP and MAINTENANCE is not their own. -/
theorem NapClosed.not_transition (h₀ : NapClosed s₀) (hok : NapUndisturbed cfg s₀ a)
    (h : Transition cfg s₀ a s nextState) :
    ¬ (s.curState = .nap ∧ nextState = .maintenance) ∧
      ¬ (s.curState = .maintenance ∧ nextState = .nap) := by
  constructor
  · rintro ⟨hcur, hnext⟩
    obtain ⟨state, p, ha, hmem, hsame, hof⟩ := h.asks_window (.inl hnext)
    rw [hnext] at hof
    refine hok.enter (hsame ▸ hcur) ⟨state, p, ha, hmem, fun hstate => ?_, hof⟩
    rw [hstate, ← hsame, hcur] at hof
    exact h₀.napNext hof
  · rintro ⟨hcur, hnext⟩
    obtain ⟨state, p, ha, hmem, hsame, hof⟩ := h.asks_window (.inr ⟨hcur, hnext⟩)
    rw [hnext] at hof
    refine hok.leave (hsame ▸ hcur) ⟨state, p, ha, hmem, fun hstate => ?_, hof⟩
    rw [hstate, ← hsame, hcur] at hof
    exact h₀.maintNext hof

/-- An effect keeps `NapClosed`. -/
theorem NapClosed.effect (h : NapClosed s) (hempty : cfg.napMaintDuration = [])
    (hok : NapUndisturbed cfg s₀ a) (h₀ : NapClosed s₀) (he : Effect cfg s₀ a s t)
    (halive : t.crashed = false) : NapClosed t := by
  have hhistory : .transited .nap .maintenance ∉ t.trace := fun hmem => by
    rcases he.transited_mem halive hmem with hmem | ⟨hcur, htr⟩
    · exact h.history hmem
    · exact (h₀.not_transition hok htr).1 ⟨hcur.symm, rfl⟩
  rcases he.begins with ⟨p, nextState, -, htr, rfl⟩ | ⟨-, hnap, hmaint⟩
  · obtain ⟨henter, hleave⟩ := h₀.not_transition hok htr
    have hstates := (transitToStateInner_alive halive).2
    refine ⟨?_, ?_, hhistory⟩
    · rw [(transit_napState hstates).2]
      split_ifs with hnext hcur
      · exact h.napNext
      · exact absurd ⟨hcur, not_not.1 hnext⟩ hleave
      · decide
      · exact h.napNext
    · rw [transit_maintState hstates]
      split_ifs with hnext
      · exact fun hcur => henter ⟨hcur, hnext⟩
      · exact h.maintNext
  · exact ⟨fun hn => h.napNext (hnap hempty hn), fun hn => h.maintNext (hmaint hn), hhistory⟩

/-- Without intervals NAP leads to no window. -/
theorem napClosed_reachable (hempty : cfg.napMaintDuration = [])
    (h : Lts.ReachableUnder (system cfg) (NapUndisturbed cfg) s) : NapClosed s :=
  run_invariant (I := NapClosed) ⟨by decide, by decide, nofun⟩
    (fun _ hok h₀ _ he halive hi => hi.effect hempty hok h₀ he halive) h

/-- Where `StopTimer` leaves no callback in flight, no task strays. -/
theorem Scheduled.not_strays (h : Scheduled s) : ¬ Strays cfg s a nextState := by
  rintro ⟨state, p, -, hmem, hne, -⟩
  exact hne (h.transit state hmem).1

/-! ## SLEEP -/

/-- An effect that does not begin SLEEP anew leaves its timer idle, unless it enters SLEEP from
another state than MAINTENANCE. -/
theorem TimerIdle.effect (h : TimerIdle s) (hempty : cfg.sleepMaintDuration = [])
    (hnot : ¬ RebeginsSleep s₀ a) (he : Effect cfg s₀ a s t) :
    TimerIdle t ∨ ∃ p, a.platform? = some p ∧ p.startTimer .sleep = true ∧
      s.curState ≠ .maintenance ∧ Transition cfg s₀ a s .sleep := by
  have hcallbacks : .startTransitNextState .sleep ∉ t.timeService.callbacks := fun hmem =>
    (he.outcome.callbacks _ .sleep rfl hmem).elim (fun hc => h.callbacks hc.1)
      fun hc => h.started hc.1
  have htasks : .transitNextState .sleep ∉ t.handler.tasks := fun hmem => by
    rcases he.outcome.tasks _ hmem with ⟨hs, -⟩ | hnew
    · exact h.tasks hs
    · cases hnew with
      | transit _ hc => exact h.callbacks hc
      | motion hname => cases hname
  by_cases hst : t.timeService.Started (.startTransitNextState .sleep)
  · rcases he.begins with ⟨p, nextState, hp, htr, rfl⟩ | ⟨hstarted, -⟩
    · rcases transit_started_sleep hempty hst with hs | ⟨rfl, hcur, hstart⟩
      · exact absurd hs h.started
      · exact .inr ⟨p, hp, hstart, hcur, htr⟩
    · exact (hstarted hst).elim (fun hs => absurd hs h.started) fun hr => absurd hr hnot
  · exact .inl ⟨hst, hcallbacks, htasks⟩

/-- SLEEP is entered from another state than MAINTENANCE by an evaluation that succeeds, unless it
is held. -/
theorem Transition.into_sleep (h : Transition cfg s₀ a s nextState) (hnext : nextState = .sleep)
    (hne : s.curState ≠ .maintenance) (hhold : ¬ HoldsSleep s₀ a) :
    Answer cfg s₀ a s true ∧ LeadsToSleep cfg s := by
  cases h with
  | exit _ _ _ hlt =>
    rw [hnext] at hlt
    exact absurd hlt (Nat.not_lt.2 (StandbyState.toNat_le _))
  | maint _ _ hmaint =>
    rw [hnext] at hmaint
    exact absurd (hmaint.resolve_left nofun) hne
  | workingResult => cases hnext
  | darkResult hans hcur => exact ⟨hans, .inr ⟨hcur, hnext⟩⟩
  | napResult hans hcur _ hphase hnext' => exact ⟨hans, .inl ⟨hcur, hphase, hnext'⟩⟩
  | hold ha hhold' _ _ _ _ _ hscreen => exact absurd (ha.holdsSleep hhold' hscreen) hhold

theorem LeadsToSleep.ne_working (h : LeadsToSleep cfg s) : s.curState ≠ .working := by
  obtain ⟨hcur, -⟩ | ⟨hcur, -⟩ := h <;> rw [hcur] <;> decide

/-- The state that leads to SLEEP is that of the beginning of the step. -/
theorem LeadsToSleep.of_same (h : LeadsToSleep cfg s) (hsame : SameSince s₀ s) :
    LeadsToSleep cfg s₀ := by
  rw [LeadsToSleep, hsame.curState, hsame.napState] at h
  exact h

/-- The constraint manager refuses the request of a task, since another is being evaluated. -/
def Refused (s : Service) (a : Action) : Prop :=
  s.constraintManager.isEvaluation = true ∧ ∃ p,
    (∃ acquire, a = .runTask (.transitToNapPhase acquire) p) ∨ a = .runTask .repeatedDetection p

/-- What answers a request with success: nothing but the total timeout, or that it has no
monitor. -/
theorem Answer.succeeds (h : Answer cfg s₀ a s true) (hleads : LeadsToSleep cfg s) (hb : Basic s)
    (hown : OwnTasks s₀) (hreg : Registered s₀) (hnot : ¬ Refused s₀ a)
    (hmap : s.constraintManager.constraintMap = s₀.constraintManager.constraintMap) :
    LeadsToSleep cfg s₀ ∧ ∃ task p, a = .runTask task p ∧ Succeeds cfg s₀ task := by
  have hne : s.curState ≠ .working ∧ s.curState ≠ .sleep := by
    obtain ⟨hcur, -⟩ | ⟨hcur, -⟩ := hleads <;> rw [hcur] <;> decide
  cases h with
  | motion ha htask hev hsame => exact ⟨hleads.of_same hsame, _, _, ha, .inl ⟨htask, hev⟩⟩
  | @atOnce params hreq _ hmonitor =>
    have hnone : s₀.constraintManager.constraintMap.lookup params.getHashValue = none := by
      by_contra hsome
      obtain ⟨m, hm⟩ := Option.ne_none_iff_exists'.1 hsome
      exact hreg.lookup_kind (hreq.bounded hb) (hreq.curState_ne_working hne.1) hm
        (hmonitor m (hmap ▸ hm))
    cases hreq with
    | enter hask hcur hnext hlt _ hfree =>
      obtain ⟨state, p, ha, -, hsame, rfl⟩ :=
        hask.task_inv hne.1 (by intro hw; rw [hw] at hlt; exact Nat.not_lt_zero _ hlt)
      have hphase : s.curInnerPhase = s₀.curInnerPhase := by
        simp only [Service.curInnerPhase, hsame.curState, hsame.napState, hsame.sleepPhase]
      have hblocked : s₀.isBlocked = false := hfree.resolve_left fun hdark => by
        rw [hdark] at hlt
        exact hne.1 (StandbyState.toNat_inj (Nat.lt_one_iff.1 hlt))
      rw [hsame.curState] at hcur hlt
      rw [hsame.curState, hphase] at hnone
      exact ⟨hleads.of_same hsame, _, p, ha, .inr ⟨_, .transit ⟨hcur, hnext, hlt, hblocked⟩, hnone⟩⟩
    | napPhase ha _ hsame =>
      have hidle : s₀.constraintManager.isEvaluation = false :=
        Bool.eq_false_iff.2 fun hbusy => hnot ⟨hbusy, _, .inl ⟨_, ha⟩⟩
      rw [hsame.napState] at hnone
      exact ⟨hleads.of_same hsame, _, _, ha, .inr ⟨_, .napPhase hidle, hnone⟩⟩
    | sleepPhase _ hmem hsame => exact absurd (hsame.curState.trans (hown.sleepPhase _ hmem)) hne.2
    | repeated ha _ hsame =>
      have hidle : s₀.constraintManager.isEvaluation = false :=
        Bool.eq_false_iff.2 fun hbusy => hnot ⟨hbusy, _, .inr ha⟩
      rw [hsame.sleepPhase] at hnone
      exact ⟨hleads.of_same hsame, _, _, ha, .inr ⟨_, .repeated hidle, hnone⟩⟩

/-- A request that is refused changes no timer. -/
theorem TimerIdle.refused (h : TimerIdle s) (hrefused : Refused s a)
    (hs : (system cfg).step s a = some t) : TimerIdle t := by
  obtain ⟨hact, -⟩ := (system_step_iff cfg).1 hs
  obtain ⟨hbusy, p, hask⟩ := hrefused
  have hidle : ∀ {params : ConstraintEvalParam} {u : Service},
      u.constraintManager = s.constraintManager → u.timeService = s.timeService →
      u.handler.tasks ⊆ s.handler.tasks → TimerIdle (startEvalCurrentState cfg p params u) := by
    intro params u hmanager htimers htasks
    have heq : startEvalCurrentState cfg p params u =
        { u with isEvalution := true, trace := .startEval params :: u.trace } :=
      if_pos (hmanager ▸ hbusy)
    rw [heq]
    exact ⟨htimers ▸ h.started, htimers ▸ h.callbacks, fun hmem => h.tasks (htasks hmem)⟩
  have herase : ∀ task, s.handler.tasks.erase task ⊆ s.handler.tasks := fun task =>
    List.erase_subset
  rcases hask with ⟨acquire, rfl⟩ | rfl
  · obtain ⟨-, rfl⟩ := act_runTask hact
    cases acquire <;> exact hidle rfl rfl (herase _)
  · obtain ⟨-, rfl⟩ := act_runTask hact
    exact hidle rfl rfl (herase _)

/-- A step that neither holds SLEEP nor begins it anew. -/
theorem TimerIdle.step (h : TimerIdle s) (hempty : cfg.sleepMaintDuration = [])
    (hok : SleepUnarmed cfg s a) (hhold : ¬ HoldsSleep s a) (hnot : ¬ RebeginsSleep s a)
    (hr : Lts.Reachable (system cfg) s) (hs : (system cfg).step s a = some t) : TimerIdle t := by
  have hown := ownTasks_reachable hr
  by_cases hrefused : Refused s a
  · exact h.refused hrefused hs
  -- within the step the monitors stay as they are, as long as a task runs
  have hstep : (TimerIdle t ∧ Basic t) ∧ ∀ task p, a = .runTask task p →
      s.isServiceReady = true → t.isServiceReady = true ∧
        t.constraintManager.constraintMap = s.constraintManager.constraintMap := by
    refine step_invariant (I := fun u => (TimerIdle u ∧ Basic u) ∧ ∀ task p, a = .runTask task p →
      s.isServiceReady = true → u.isServiceReady = true ∧
        u.constraintManager.constraintMap = s.constraintManager.constraintMap) hown hs
      ⟨⟨h, basic_reachable hr⟩, fun _ _ _ hready => ⟨hready, rfl⟩⟩ ?_
    rintro u v - he halive ⟨⟨hidle, hb⟩, hmap⟩
    refine ⟨⟨?_, hb.effect he halive⟩, fun task p ha hready => ?_⟩
    · refine (hidle.effect hempty hnot he).resolve_right ?_
      rintro ⟨p, hp, hstart, hne, htr⟩
      obtain ⟨hans, hleads⟩ := htr.into_sleep rfl hne hhold
      obtain ⟨hcur, task, p', ha⟩ := hans.of_task hleads.ne_working
      have hready : s.isServiceReady = true :=
        (basic_reachable hr).ready (hcur ▸ hleads.ne_working)
      obtain ⟨hleads₀, task, p', ha, hsucceeds⟩ := hans.succeeds hleads hb hown
        (registered_reachable hr) hrefused (hmap task p' ha hready).2
      rw [ha] at hp
      rw [← Option.some.inj hp, hok.entered hleads₀ task p' ha hsucceeds] at hstart
      cases hstart
    · subst ha
      obtain ⟨hu, hsame⟩ := hmap task p rfl hready
      exact ⟨(he.constraintMap_of_task hu).1, (he.constraintMap_of_task hu).2.trans hsame⟩
  exact hstep.1.1

/-- Recording an event keeps the timer of SLEEP idle. -/
theorem TimerIdle.record (h : TimerIdle s) (cfg : StandbyConfig) (p : Platform)
    (action : CommonEvent) : TimerIdle (recordEvent cfg p action s) := by
  obtain ⟨hstarted, hcallbacks⟩ := recordEvent_timeService cfg p action s
  obtain ⟨_, _, _, hf⟩ := recordEvent_frame cfg p action s
  refine ⟨fun hst => h.started (hstarted _ .sleep rfl hst),
    fun hmem => h.callbacks (hcallbacks hmem), ?_⟩
  rw [hf]
  exact h.tasks

/-- Holding SLEEP stops its timer. -/
theorem TimerIdle.transitHold (h : TimerIdle s) :
    TimerIdle (transitHoldSleepState cfg p s) := by
  have hstopped : ∀ u : Service, .startTransitNextState .sleep ∉ u.timeService.callbacks →
      .transitNextState .sleep ∉ u.handler.tasks →
      TimerIdle (stopRepeatedTimedTask cfg (stopTransitTimedTask cfg .sleep u)) :=
    fun u hcallbacks htasks => {
      started := fun hst =>
        (stopTransitTimedTask_started (stopRepeatedTimedTask_started hst).1).2 rfl
      callbacks := fun hmem => hcallbacks
        (stopTransitTimedTask_callbacks (stopRepeatedTimedTask_callbacks hmem).1).1
      tasks := htasks }
  unfold transitHoldSleepState
  dsimp only
  refine hstopped _ (fun hmem => ?_) fun hmem => ?_
  · split_ifs at hmem
    · exact h.callbacks (transit_callbacks hmem).1
    · exact h.callbacks hmem
  · split_ifs at hmem
    · rcases mem_transit_tasks hmem with ⟨hs, -⟩ | hnew
      · exact h.tasks hs
      · cases hnew
    · exact h.tasks hmem

/-- A step that holds SLEEP. -/
theorem TimerIdle.hold (h : TimerIdle s) (hhold : HoldsSleep s a)
    (hs : (system cfg).step s a = some t) : TimerIdle t := by
  obtain ⟨hact, -⟩ := (system_step_iff cfg).1 hs
  obtain ⟨action, ⟨p, rfl, queue, hqueue⟩, hholds⟩ := hhold
  obtain rfl := act_commonEvent hqueue hact
  have hidle : TimerIdle { s with handler.queue := queue } := ⟨h.started, h.callbacks, h.tasks⟩
  have hrec := hidle.record cfg p action
  have hscreen := recordEvent_isScreenOn cfg p action { s with handler.queue := queue }
  rw [handleCommonEvent_eq]
  generalize recordEvent cfg p action { s with handler.queue := queue } = u at hrec hscreen ⊢
  -- the event is answered by `TransitHoldSleepState`, after which DARK is not tried
  have hresp : ∃ v, TimerIdle v ∧ respond cfg p action u = transitHoldSleepState cfg p v := by
    rcases hholds with rfl | ⟨rfl, hoff⟩
    · exact ⟨u, hrec, rfl⟩
    · refine ⟨{ u with isSleepState := true }, ⟨hrec.started, hrec.callbacks, hrec.tasks⟩, ?_⟩
      have hoff : u.isScreenOn = false := hscreen.trans hoff
      simp [respond, CommonEvent.isWakeUp, handleAction, handleUserSleepState, hoff]
  obtain ⟨v, hv, heq⟩ := hresp
  rw [heq, tryEnterDark_sleep transitHoldSleepState_curState]
  exact hv.transitHold

/-- A step that begins SLEEP anew. -/
theorem TimerIdle.rebegin (h : TimerIdle s) (hempty : cfg.sleepMaintDuration = [])
    (hok : SleepUnarmed cfg s a) (hrebegin : RebeginsSleep s a)
    (hs : (system cfg).step s a = some t) : TimerIdle t := by
  obtain ⟨hact, -⟩ := (system_step_iff cfg).1 hs
  have hpre := hok.rebegun hrebegin
  obtain ⟨⟨p, rfl, queue, hqueue⟩, hcur, hoff⟩ := hrebegin
  obtain rfl := act_commonEvent hqueue hact
  have hidle : TimerIdle { s with handler.queue := queue } := ⟨h.started, h.callbacks, h.tasks⟩
  have hrec := hidle.record cfg p (.userSleepStateChanged (some false))
  obtain ⟨_, _, _, hframe⟩ := recordEvent_frame cfg p (.userSleepStateChanged (some false))
    { s with handler.queue := queue }
  have hscreen := recordEvent_isScreenOn cfg p (.userSleepStateChanged (some false))
    { s with handler.queue := queue }
  rw [handleCommonEvent_eq]
  generalize recordEvent cfg p (.userSleepStateChanged (some false)) _ = u
    at hrec hframe hscreen ⊢
  have hcur' : u.curState = .sleep := by rw [hframe]; exact hcur
  have hpre' : u.preState = s.preState := by rw [hframe]
  have hoff' : u.isScreenOn = false := hscreen.trans hoff
  let v := { u with isSleepState := false }.log .sleepRebegun
  have heq : respond cfg p (.userSleepStateChanged (some false)) u =
      SleepState.beginState cfg p v := by
    simp [respond, CommonEvent.isWakeUp, handleAction, handleUserSleepState, hoff', hcur', v]
  obtain ⟨_, _, _, _, _, hbegin⟩ := SleepState.beginState_frame cfg p v
  rw [heq, tryEnterDark_sleep (by rw [hbegin]; exact hcur')]
  refine ⟨fun hst => ?_, fun hmem => ?_, fun hmem => ?_⟩
  · rcases SleepState.beginState_started hempty hst with hst | ⟨hne, hstart⟩
    · exact hrec.started hst
    · exact hne (hpre'.trans (hpre p rfl hstart))
  · rw [(SleepState.beginState_timeService cfg p v).2] at hmem
    exact hrec.callbacks hmem
  · rcases mem_sleepBegin_tasks hmem with hmem | hmem
    · exact hrec.tasks hmem
    · cases hmem

/-- SLEEP leads to no window. -/
structure SleepClosed (s : Service) : Prop extends TimerIdle s where
  history : .transited .sleep .maintenance ∉ s.trace

/-- A step keeps `SleepClosed`. -/
theorem SleepClosed.step (h : SleepClosed s) (hempty : cfg.sleepMaintDuration = [])
    (hok : SleepUnarmed cfg s a) (hr : Lts.Reachable (system cfg) s)
    (hs : (system cfg).step s a = some t) : SleepClosed t := by
  refine ⟨?_, ?_⟩
  · by_cases hhold : HoldsSleep s a
    · exact h.hold hhold hs
    · by_cases hrebegin : RebeginsSleep s a
      · exact h.rebegin hempty hok hrebegin hs
      · exact h.toTimerIdle.step hempty hok hhold hrebegin hr hs
  · refine step_invariant (I := fun u => .transited .sleep .maintenance ∉ u.trace)
      (ownTasks_reachable hr) hs h.history fun {u _} _ he halive hu hmem => ?_
    rcases he.transited_mem halive hmem with hmem | ⟨hcur, htr⟩
    · exact hu hmem
    · obtain ⟨state, p, ha, htask, hsame, hof⟩ := htr.asks_window (.inl rfl)
      have hsleep : s.curState = .sleep := hsame.symm.trans hcur.symm
      refine hok.enter hsleep ⟨state, p, ha, htask, fun hstate => ?_, hof⟩
      rw [hstate, hsleep] at htask
      exact h.tasks htask

/-- Without intervals SLEEP leads to no window when its timer is not armed. -/
theorem sleepClosed_reachable (hempty : cfg.sleepMaintDuration = [])
    (h : Lts.ReachableUnder (system cfg) (SleepUnarmed cfg) s) : SleepClosed s :=
  have h0 : SleepClosed {} := ⟨⟨not_not_intro rfl, nofun, nofun⟩, nofun⟩
  h.invariant (I := SleepClosed) h0
    fun hr hok hs hi => hi.step hempty hok (hr.mono fun _ => trivial) hs

/-- The transition task of SLEEP enters MAINTENANCE, whatever is being evaluated. -/
theorem runTransitNextState_sleep (hcur : s.curState = .sleep) :
    runTransitNextState cfg p .sleep s =
      transitToStateInner cfg p .maintenance (stopEvalution s.acquireStandbyRunningLock) := by
  obtain ⟨_, _, _, _, hf⟩ := stopEvalution_frame (s := s.acquireStandbyRunningLock)
  have hsleep : (stopEvalution s.acquireStandbyRunningLock).curState = .sleep := by
    rw [hf]
    exact hcur
  simp [runTransitNextState, transitToState, transitToStateWith, transitWithMaint, nextStateOf,
    hsleep, checkTransitionValid]

/-- The timer of SLEEP, once it is started, opens the window when it elapses. -/
theorem sleep_window_opens (hr : Lts.Reachable (system cfg) s) (hcur : s.curState = .sleep)
    (hst : s.timeService.Started (.startTransitNextState .sleep)) (p : Platform) :
    ∃ t, (system cfg).run s (elapsing .sleep p) = some t ∧
      .transited .sleep .maintenance ∈ t.trace := by
  have halive : s.crashed = false :=
    hr.invariant (I := fun s => s.crashed = false) rfl
      fun _ _ hs _ => ((system_step_iff cfg).1 hs).2
  have hstates : s.statesAlive = true := by
    have hbasic := basic_reachable hr
    exact hbasic.alive.trans (hbasic.ready (by rw [hcur]; decide))
  obtain ⟨timeOut, htimer⟩ := Option.ne_none_iff_exists'.1 hst
  -- the timer fires, and its callback posts the task
  let timeService : TimeService := { s.timeService with
    enterStandbyTimer := Function.update s.timeService.enterStandbyTimer .sleep none }
  let fired : Service := { s with timeService := { timeService with
    callbacks := .startTransitNextState .sleep :: s.timeService.callbacks } }
  let posted : Service := ({ s with timeService := timeService } : Service).postTask
    (.transitNextState .sleep)
  have hfire : (system cfg).step s (.timerFire (.startTransitNextState .sleep)) = some fired :=
    (system_step_iff cfg).2 ⟨by simp [act, timerFire, htimer, fired, timeService], halive⟩
  have hpost : (system cfg).step fired (.timerCallback (.startTransitNextState .sleep)) =
      some posted :=
    (system_step_iff cfg).2 ⟨by simp [act, runCallback, fired, posted, timeService], halive⟩
  -- the task enters MAINTENANCE
  let u : Service := { posted with
    handler.tasks := posted.handler.tasks.erase (.transitNextState .sleep) }
  obtain ⟨_, _, _, _, hstop⟩ := stopEvalution_frame (s := u.acquireStandbyRunningLock)
  have hrun : (system cfg).step posted (.runTask (.transitNextState .sleep) p) = some
      (transitToStateInner cfg p .maintenance (stopEvalution u.acquireStandbyRunningLock)) := by
    refine (system_step_iff cfg).2 ⟨?_, ?_⟩
    · have hmem : .transitNextState .sleep ∈ posted.handler.tasks := by
        simp [posted, Service.postTask]
      simp only [act, if_pos hmem]
      exact congrArg some (runTransitNextState_sleep (s := u) hcur)
    · rw [transitToStateInner_crashed (by rw [hstop]; exact hstates), hstop]
      exact halive
  obtain ⟨entries, -, htrace⟩ := transitToStateInner_trace cfg p .maintenance
    (s := stopEvalution u.acquireStandbyRunningLock) (by rw [hstop]; exact hstates)
  refine ⟨_, by simp [elapsing, Lts.System.run, hfire, hpost, hrun]; rfl, ?_⟩
  have hsleep : (stopEvalution u.acquireStandbyRunningLock).curState = .sleep := by
    rw [hstop]
    exact hcur
  rw [htrace, hsleep]
  simp

/-! ## Runs without intervals -/

/-- Where `StopTimer` leaves no callback in flight, NAP needs no condition. -/
theorem nap_window_closed (hdrains : cfg.stopTimerDrains = true)
    (hempty : cfg.napMaintDuration = []) (h : Lts.Reachable (system cfg) s) :
    .transited .nap .maintenance ∉ s.trace := by
  refine (napClosed_reachable hempty (h.of_forall fun hr => ?_)).history
  have hs := scheduled_reachable hdrains hr
  exact ⟨fun _ => hs.not_strays, fun _ => hs.not_strays⟩

/-- Without intervals no window is opened, in NAP as long as no task of another state strays, which
none does where `StopTimer` leaves no callback in flight, and in SLEEP as long as its timer does not
start when it is begun. A timer of SLEEP that is started opens one. -/
theorem no_window_without_intervals (cfg : StandbyConfig) (s : Service) :
    (cfg.napMaintDuration = [] →
      (Lts.ReachableUnder (system cfg) (NapUndisturbed cfg) s →
        .transited .nap .maintenance ∉ s.trace) ∧
      (cfg.stopTimerDrains = true → Lts.Reachable (system cfg) s →
        .transited .nap .maintenance ∉ s.trace)) ∧
    (cfg.sleepMaintDuration = [] →
      (Lts.ReachableUnder (system cfg) (SleepUnarmed cfg) s →
        .transited .sleep .maintenance ∉ s.trace) ∧
      (Lts.Reachable (system cfg) s → s.curState = .sleep →
        s.timeService.Started (.startTransitNextState .sleep) → ∀ p,
          ∃ t, (system cfg).run s (elapsing .sleep p) = some t ∧
            .transited .sleep .maintenance ∈ t.trace)) :=
  ⟨fun hempty => ⟨fun h => (napClosed_reachable hempty h).history,
      fun hdrains h => nap_window_closed hdrains hempty h⟩,
    fun hempty => ⟨fun h => (sleepClosed_reachable hempty h).history,
      fun hr hcur hst p => sleep_window_opens hr hcur hst p⟩⟩

/-- No interval is configured. -/
def emptyConfig : StandbyConfig :=
  { sampleConfig with napMaintDuration := [], sleepMaintDuration := [] }

/-- The device is left alone until it has entered SLEEP from the last phase of NAP. -/
def leftAloneRun (p : Platform) : List Action :=
  .initReadyState p :: handling .screenOff p ++ elapsing .dark p ++
    [.runTask (.transitToNapPhase true) p, .runTask (.transitToNapPhase false) p,
      .runTask (.transitToNapPhase false) p] ++
    elapsing .nap p ++ [.runTask .motionTotalTimeOut p]

/-- A test that suffices for both conditions: no timer of SLEEP starts, and a transition task that
runs is the current state's. -/
def closedTest (s : Service) (a : Action) : Bool :=
  decide (∀ p, a.platform? = some p → p.startTimer .sleep = false) && match a with
    | .runTask (.transitNextState state) _ => state = s.curState
    | _ => true

theorem closed_of_test (s : Service) (a : Action) (h : closedTest s a = true) :
    NapUndisturbed cfg s a ∧ SleepUnarmed cfg s a := by
  obtain ⟨htimer, htask⟩ := Bool.and_eq_true_iff.1 h
  have hstart : ∀ p, a.platform? = some p → p.startTimer .sleep ≠ true := fun p hp => by
    rw [of_decide_eq_true htimer p hp]
    decide
  have hstrays : ∀ nextState, ¬ Strays cfg s a nextState := by
    rintro _ ⟨state, p, rfl, -, hne, -⟩
    exact hne (of_decide_eq_true htask)
  exact ⟨⟨fun _ => hstrays _, fun _ => hstrays _⟩,
    ⟨fun _ task p ha _ => Bool.eq_false_iff.2 (hstart p (ha ▸ rfl)),
      fun _ p hp hs => absurd hs (hstart p hp),
      fun _ => hstrays _⟩⟩

/-- NAP is left for SLEEP, whose timer does not start. -/
theorem no_window_without_intervals_sleep : ∃ s : Service, s.curState = .sleep ∧
    .transited .nap .maintenance ∉ s.trace ∧ .transited .sleep .maintenance ∉ s.trace := by
  obtain ⟨s, hr, hs⟩ := (system emptyConfig).exists_check
    (fun s a => NapUndisturbed emptyConfig s a ∧ SleepUnarmed emptyConfig s a) closedTest
    closed_of_test (fun s => s.curState = .sleep)
    (leftAloneRun { samplePlatform with startTimer := fun state => state ≠ .sleep }) (by decide)
  have hclosed := no_window_without_intervals emptyConfig s
  exact ⟨s, of_decide_eq_true hs, (hclosed.1 rfl).1 (hr.mono And.left),
    (hclosed.2 rfl).1 (hr.mono And.right)⟩

/-- A window is opened without intervals: the timer of SLEEP elapses at once. -/
theorem window_without_intervals : ¬ ∀ (cfg : StandbyConfig) (s : Service),
    Lts.Reachable (system cfg) s →
    (cfg.napMaintDuration = [] → .transited .nap .maintenance ∉ s.trace) ∧
      (cfg.sleepMaintDuration = [] → .transited .sleep .maintenance ∉ s.trace) := by
  intro h
  obtain ⟨s, hr, hs⟩ := (system emptyConfig).exists_run
    (leftAloneRun samplePlatform ++ elapsing .sleep samplePlatform)
    (Lts.System.runMeets_of_forall _ fun _ _ _ => trivial)
    (fun s => .transited .sleep .maintenance ∈ s.trace) (by decide)
  exact (h emptyConfig s hr).2 rfl hs

end

end DeviceStandby
