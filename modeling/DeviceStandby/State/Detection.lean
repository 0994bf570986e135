import DeviceStandby.State.Hold
import DeviceStandby.State.Evaluation

/-!
# The repeated detection of SLEEP

The end of the last phase arms the timer of the repeated detection, and every end of SLEEP stops it.
`SleepState::BeginState` returns early when SLEEP is resumed from MAINTENANCE: the phase stays at
its end, so nothing arms the timer again. `detection_pending` says which steps a run must avoid for
a SLEEP that is not held to keep its detection.
-/

namespace DeviceStandby

/-- The repeated detection is armed, or its task or its evaluation is pending. -/
def DetectionPending (s : Service) : Prop :=
  s.timeService.Started .startPeriodlyMotionDetection ∨ .repeatedDetection ∈ s.handler.tasks ∨
    (s.isEvalution = true ∧ s.sleepState.isRepeatedDetection = true)

/-- SLEEP in its last phase has armed the repeated detection. -/
def Armed (s : Service) : Prop :=
  s.curState = .sleep → s.sleepState.curPhase = SleepStatePhase.END →
    s.timeService.Started .startPeriodlyMotionDetection

/-- The step ends a maintenance window in SLEEP, after the last phase of SLEEP. -/
def ResumesAtEnd (cfg : StandbyConfig) (s : Service) (a : Action) : Prop :=
  ∃ state p, a = .runTask (.transitNextState state) p ∧ s.curState = .maintenance ∧
    nextStateOf cfg state s = .sleep ∧ s.sleepState.curPhase = SleepStatePhase.END

/-- The step keeps the detection: it does not end a maintenance window in a SLEEP that is past its
last phase, and no user-sleep-false event resumes a held SLEEP that was entered from MAINTENANCE and
is past its last phase, unless its detection is armed. -/
structure KeepsDetection (cfg : StandbyConfig) (s : Service × Bool) (a : Action) : Prop where
  resume : s.2 = false → ¬ ResumesAtEnd cfg s.1 a
  rebegin : s.2 = true → Handles s.1 a (.userSleepStateChanged (some false)) →
    s.1.isScreenOn = false → s.1.preState = .maintenance → Armed s.1

section
variable {cfg : StandbyConfig} {s₀ : Service} {a : Action} {p : Platform} {s t : Service}
  {action : CommonEvent}

/-- A write that leaves SLEEP, its phase and its detection alone. -/
theorem Armed.of_eq (h : Armed s) (hcur : t.curState = s.curState)
    (hphase : t.sleepState.curPhase = s.sleepState.curPhase)
    (htimer : t.timeService.repeatedDetectionTimer = s.timeService.repeatedDetectionTimer) :
    Armed t := fun hsleep hend => by
  simp only [TimeService.Started, htimer]
  exact h (hcur ▸ hsleep) (hphase ▸ hend)

/-- Nothing is armed outside of SLEEP. -/
theorem Armed.of_ne (hne : t.curState ≠ .sleep) : Armed t := fun hsleep => absurd hsleep hne

/-! ## What leaves the timer alone -/

/-- Beginning SLEEP does not touch its repeated timer. -/
theorem SleepState.beginState_repeatedTimer (cfg : StandbyConfig) (p : Platform) (s : Service) :
    (SleepState.beginState cfg p s).timeService.repeatedDetectionTimer =
      s.timeService.repeatedDetectionTimer := by
  unfold SleepState.beginState SleepState.checkScrenOffHalfHour
  dsimp only
  split_ifs
  · rfl
  · rfl
  · rw [onScreenOffHalfHourInner_timeService]
    rfl
  · rfl

/-- Recording an event leaves the repeated timer. -/
theorem recordEvent_repeatedTimer (cfg : StandbyConfig) (p : Platform) (action : CommonEvent)
    (s : Service) : (recordEvent cfg p action s).timeService.repeatedDetectionTimer =
      s.timeService.repeatedDetectionTimer := by
  unfold recordEvent handleScrOffHalfHour
  cases action <;> dsimp only [handleScreenStatus] <;> split_ifs <;> rfl

/-- So does a timer that fires: it is repeated. -/
theorem timerFire_repeatedTimer {callback : TimerCallback} (h : timerFire callback s = some t) :
    t.timeService.repeatedDetectionTimer = s.timeService.repeatedDetectionTimer := by
  unfold timerFire at h
  cases callback <;> obtain ⟨_, -, rfl⟩ := Option.map_eq_some_iff.1 h <;> rfl

/-- Beginning SLEEP anew keeps what is armed: it starts from the first phase, or resumes. -/
theorem Armed.beginState (h : s.preState = .maintenance → Armed s) :
    Armed (SleepState.beginState cfg p s) := by
  have hphase := (SleepState.beginState_sleepState cfg p s).1
  by_cases hpre : s.preState = .maintenance
  · obtain ⟨_, _, _, _, _, hf⟩ := SleepState.beginState_frame cfg p s
    refine (h hpre).of_eq (by rw [hf]) ?_ (SleepState.beginState_repeatedTimer cfg p s)
    rw [hphase, if_pos hpre]
  · intro _ hend
    rw [hphase, if_neg hpre] at hend
    cases hend

/-! ## Effects -/

/-- A transition to SLEEP starts from the first phase, unless it resumes SLEEP. -/
theorem Transition.armed {nextState : StandbyState} (h : Transition cfg s₀ a s nextState)
    (hresume : ¬ ResumesAtEnd cfg s₀ a) (hhold : ¬ HoldsSleep s₀ a)
    (halive : (transitToStateInner cfg p nextState s).crashed = false) :
    Armed (transitToStateInner cfg p nextState s) := by
  intro hsleep hend
  have hnext : nextState = .sleep := by simpa using hsleep
  rw [transit_sleepPhase (transitToStateInner_alive halive).2] at hend
  by_cases hmaint : s.curState = .maintenance
  · simp only [hmaint, ne_eq, not_true_eq_false, and_false, if_false] at hend
    cases h with
    | exit _ hcur => exact absurd hmaint hcur
    | maint hask =>
      obtain ⟨state, p, ha, -, hsame, hn⟩ :=
        hask.task_inv (by rw [hmaint]; decide) (by rw [hnext]; decide)
      exact absurd ⟨state, p, ha, hsame.curState ▸ hmaint, hn.symm.trans hnext,
        hsame.sleepPhase ▸ hend⟩ hresume
    | workingResult _ hcur | darkResult _ hcur | napResult _ hcur =>
      rw [hmaint] at hcur
      cases hcur
    | @hold action ha hisHold _ _ _ _ _ hscreen =>
      exact absurd (ha.holdsSleep hisHold hscreen) hhold
  · rw [if_pos ⟨hnext, hmaint⟩] at hend
    cases hend

/-- An effect keeps the detection of SLEEP armed. -/
theorem Armed.effect (hmotion : cfg.detectMotion = true) (htimers : a.TimersStart)
    (hresume : ¬ ResumesAtEnd cfg s₀ a) (hhold : ¬ HoldsSleep s₀ a)
    (he : Effect cfg s₀ a s t) (halive : t.crashed = false) (h : Armed s) : Armed t := by
  cases he with
  | transit p htr => exact htr.armed hresume hhold halive
  | sleepPhase p _ _ hphase _ hp =>
    intro hcur hend
    obtain ⟨-, hstarts⟩ := htimers p hp
    simp only [SleepState.endEvalPhase, SleepState.setPhaseTransitOrRepeatedTask] at hend ⊢
    split_ifs at hend ⊢ <;> simp_all [TimeService.Started, Service.postTask, transitToPhaseInner,
      Service.dispatchEvent]
  | @rebegin p =>
    exact Armed.beginState fun _ => h.of_eq rfl rfl rfl
  | holdTimers ha hisHold hscreen => exact absurd (ha.holdsSleep hisHold hscreen) hhold
  | @record _ action queue p =>
    have htimer := recordEvent_repeatedTimer cfg p action { s with handler.queue := queue }
    obtain ⟨_, _, _, hf⟩ := recordEvent_frame cfg p action { s with handler.queue := queue }
    exact h.of_eq (by rw [hf]) (by rw [hf]) htimer
  | @block p =>
    obtain ⟨_, _, _, hf⟩ := blockCurrentState_frame cfg p s
    rw [hf]
    exact h.of_eq rfl rfl rfl
  | stop =>
    obtain ⟨_, _, _, _, hf⟩ := stopEvalution_frame (s := s)
    rw [hf]
    exact h.of_eq rfl rfl rfl
  | finish =>
    obtain ⟨_, _, _, hf⟩ := finishEvalution_frame (s := s)
    rw [hf]
    exact h.of_eq rfl rfl rfl
  | halfHour c =>
    obtain ⟨_, _, _, hf⟩ := onScreenOffHalfHourInner_frame (c := c) (r := false) (s := s)
    rw [hf]
    exact h.of_eq rfl rfl rfl
  | @napPhase _ evalResult =>
    obtain ⟨_, _, _, hf⟩ := NapState.setPhaseTransitTask_frame evalResult s
    rw [hf]
    exact h.of_eq rfl rfl rfl
  | callback _ _ hne =>
    obtain ⟨_, hrun, -⟩ := runCallback_frame (s := { s with
      timeService.callbacks := s.timeService.callbacks.erase _ }) hne
    rw [hrun]
    exact h.of_eq rfl rfl rfl
  | fire hfire =>
    have htimer := timerFire_repeatedTimer hfire
    obtain ⟨_, rfl⟩ := timerFire_frame hfire
    exact h.of_eq rfl rfl htimer
  | @init p _ hready =>
    obtain ⟨_, _, hf⟩ := initReadyState_frame cfg p hready
    rw [hf]
    exact .of_ne (by rintro ⟨⟩)
  | resetStates _ hcur =>
    obtain ⟨_, _, hf⟩ := StateManagerAdapter.resetStates_frame cfg s
    rw [hf]
    exact .of_ne (by rw [hcur]; rintro ⟨⟩)
  | unblock | startRejected | startAccepted | startMotion | startSensor | startSensorFailed
  | setRepeated | runningLock | sleepFlag | skip | takeTask | stopDetection | takeHalfHour
  | sensorEvent | post | conditionChanged | unInitConstraints => exact h.of_eq rfl rfl rfl

/-- So does a chain. -/
theorem Armed.chain (hmotion : cfg.detectMotion = true) (htimers : a.TimersStart)
    (hresume : ¬ ResumesAtEnd cfg s₀ a) (hhold : ¬ HoldsSleep s₀ a)
    (hc : Chain cfg s₀ a s t) (halive : t.crashed = false) (h : Armed s) : Armed t := by
  induction hc with
  | refl => exact h
  | tail _ he ih =>
    exact (ih (he.outcome.crashed halive)).effect hmotion htimers hresume hhold he halive

/-! ## Steps -/

/-- The steps that hold SLEEP. -/
theorem HoldsSleep.heldAfter {held : Bool} (h : HoldsSleep s a) :
    heldAfter s a t held = true := by
  obtain ⟨action, ⟨p, rfl, queue, hqueue⟩, haction⟩ := h
  simp only [DeviceStandby.heldAfter, hqueue]
  rcases haction with rfl | ⟨rfl, hoff⟩
  · rfl
  · simp [heldAfterEvent, hoff]

/-- A hold ends when the device wakes up, or the user's sleep ends. -/
theorem heldAfterEvent_eq_false (h : heldAfterEvent s action true = false) :
    action.isWakeUp = true ∨
      action = .userSleepStateChanged (some false) ∧ s.isScreenOn = false := by
  cases action with
  | enterForceSleep => cases h
  | userSleepStateChanged isSleep =>
    cases isSleep with
    | none => cases h
    | some isSleep =>
      right
      simp only [heldAfterEvent] at h
      split_ifs at h with hon
      exact ⟨by rw [h], Bool.eq_false_iff.2 hon⟩
  | _ => exact .inl (by simpa [heldAfterEvent] using h)

/-- The end of a hold. -/
theorem armed_respond (hwake : action.isWakeUp = true ∨
      action = .userSleepStateChanged (some false) ∧ s.isScreenOn = false)
    (hresumed : action = .userSleepStateChanged (some false) → s.preState = .maintenance →
      Armed s) : Armed (respond cfg p action s) := by
  rcases hwake with hwake | ⟨rfl, hoff⟩
  · refine .of_ne ?_
    rw [respond, if_pos hwake, transitToWorking_curState]
    rintro ⟨⟩
  · simp only [respond, CommonEvent.isWakeUp, Bool.false_eq_true, if_false, handleAction,
      handleUserSleepState, hoff]
    split_ifs with hcur
    · exact Armed.beginState fun hpre => (hresumed rfl hpre).of_eq rfl rfl rfl
    · exact .of_ne hcur

/-- A step after which SLEEP is not held. -/
theorem armed_step {held : Bool} (hr : Lts.Reachable (system cfg) s)
    (hmotion : cfg.detectMotion = true) (htimers : a.TimersStart)
    (hok : KeepsDetection cfg (s, held) a) (h : held = false → Armed s)
    (hs : (system cfg).step s a = some t) (hheld : heldAfter s a t held = false) : Armed t := by
  obtain ⟨hact, halive⟩ := (system_step_iff cfg).1 hs
  cases held with
  | false =>
    refine (h rfl).chain hmotion htimers (hok.resume rfl) (fun hhold => ?_)
      (chain_act (ownTasks_reachable hr) hact) halive
    rw [hhold.heldAfter] at hheld
    cases hheld
  | true =>
    simp only [heldAfter] at hheld
    split at hheld
    case h_1 p action queue hqueue =>
      have hwake := heldAfterEvent_eq_false hheld
      have hhandles : Handles s (.dispatch p) action := ⟨p, rfl, queue, hqueue⟩
      obtain rfl := act_commonEvent hqueue hact
      rw [handleCommonEvent_eq] at halive ⊢
      have hresume : ¬ ResumesAtEnd cfg s (.dispatch p) := by
        rintro ⟨_, _, ha, _⟩
        cases ha
      have hhold : ¬ HoldsSleep s (.dispatch p) := fun hhold => by
        have htrue : DeviceStandby.heldAfter s (.dispatch p) s true = true := hhold.heldAfter
        simp only [heldAfter, hqueue, hheld, Bool.false_eq_true] at htrue
      refine Armed.chain hmotion htimers hresume hhold (chain_tryEnterDark rfl) halive ?_
      have hscreen := recordEvent_isScreenOn cfg p action { s with handler.queue := queue }
      have htimer := recordEvent_repeatedTimer cfg p action { s with handler.queue := queue }
      obtain ⟨_, _, _, hf⟩ := recordEvent_frame cfg p action { s with handler.queue := queue }
      rcases hwake with hwake | ⟨rfl, hoff⟩
      · refine armed_respond (.inl hwake) fun hsleep => ?_
        rw [hsleep] at hwake
        cases hwake
      · refine armed_respond (.inr ⟨rfl, hscreen.trans hoff⟩) fun _ hpre => ?_
        rw [hf] at hpre
        exact (hok.rebegin rfl hhandles hoff hpre).of_eq (by rw [hf]) (by rw [hf]) htimer
    case h_2 =>
      refine .of_ne ?_
      simp only [Bool.true_and, decide_eq_false_iff_not, not_not] at hheld
      rw [hheld]
      rintro ⟨⟩

/-- In a run whose steps keep the detection, a SLEEP that is past its last phase and not held has
its repeated detection pending. -/
theorem detection_pending (hmotion : cfg.detectMotion = true)
    (h : Lts.ReachableUnder (heldSystem cfg) (fun s a => a.TimersStart ∧ KeepsDetection cfg s a)
      (s, false))
    (hcur : s.curState = .sleep) (hphase : s.sleepState.curPhase = SleepStatePhase.END) :
    DetectionPending s := by
  have h0 : Armed {} := fun hsleep => nomatch hsleep
  have harmed : (s, false).2 = false → Armed (s, false).1 := by
    refine h.invariant (I := fun s => s.2 = false → Armed s.1)
      (fun _ => h0) fun {s t a} hr hok hs hi ht => ?_
    obtain ⟨hstep, hflag⟩ := Lts.System.withGhost_step_iff.1 hs
    exact armed_step hr.of_withGhost hmotion hok.1 hok.2 hi hstep (hflag ▸ ht)
  exact .inl (harmed rfl hcur hphase)

/-- SLEEP is entered from NAP and runs through its phases. -/
def sleepRun : List Action :=
  evaluatingRun ++ [.runTask .motionTotalTimeOut samplePlatform,
    .runTask (.transitToSleepPhase true) samplePlatform,
    .runTask (.transitToSleepPhase false) samplePlatform,
    .runTask (.transitToSleepPhase false) samplePlatform]

/-- A test that suffices for `KeepsDetection`, where nothing is held. -/
def detectionTest (s : Service × Bool) (a : Action) : Bool :=
  s.2 = false ∧ s.1.curState ≠ .maintenance ∧ a.TimersStart

/-- The test suffices. -/
theorem keepsDetection_of_test (s : Service × Bool) (a : Action) (h : detectionTest s a = true) :
    a.TimersStart ∧ KeepsDetection cfg s a := by
  obtain ⟨hheld, hcur, htimers⟩ := of_decide_eq_true h
  refine ⟨htimers, fun _ ⟨_, _, _, hmaint, _⟩ => hcur hmaint, fun htrue => ?_⟩
  rw [hheld] at htrue
  cases htrue

/-- SLEEP has its detection armed at the end of its phases. -/
theorem detection_pending_sleep : ∃ s, s.curState = .sleep ∧ DetectionPending s := by
  obtain ⟨⟨s, held⟩, hr, hs⟩ := (heldSystem sampleConfig).exists_check
    (fun s a => a.TimersStart ∧ KeepsDetection sampleConfig s a) detectionTest
    keepsDetection_of_test (fun s => s.2 = false ∧ s.1.curState = .sleep ∧
      s.1.sleepState.curPhase = SleepStatePhase.END) sleepRun (by decide)
  obtain ⟨hheld, hcur, hphase⟩ := of_decide_eq_true hs
  cases hheld
  exact ⟨s, hcur, detection_pending rfl hr hcur hphase⟩

/-- The detection does not stay pending: SLEEP comes back from its first maintenance window without
it. -/
theorem detection_not_always_pending : ¬ ∀ (cfg : StandbyConfig) (s : Service),
    cfg.detectMotion = true →
    Lts.ReachableUnder (heldSystem cfg) (fun _ a => a.TimersStart) (s, false) →
    s.curState = .sleep → s.sleepState.curPhase = SleepStatePhase.END → DetectionPending s := by
  intro h
  obtain ⟨⟨s, held⟩, hr, hheld, hcur, hphase, htimer, htask, hidle⟩ :=
    (heldSystem sampleConfig).exists_run
      (sleepRun ++ elapsing .sleep samplePlatform ++ elapsing .maintenance samplePlatform)
      (Lts.System.runMeets_of_forall (fun _ a => a.TimersStart)
        (by simp [sleepRun, evaluatingRun, napRun, elapsing, handling, Action.TimersStart,
          Action.platform?, samplePlatform]))
      (fun s => s.2 = false ∧ s.1.curState = .sleep ∧
        s.1.sleepState.curPhase = SleepStatePhase.END ∧
        s.1.timeService.repeatedDetectionTimer = none ∧ .repeatedDetection ∉ s.1.handler.tasks ∧
        s.1.isEvalution = false) (by decide)
  cases hheld
  rcases h sampleConfig s rfl hr hcur hphase with hst | hmem | ⟨hev, -⟩
  · exact hst htimer
  · exact htask hmem
  · rw [hidle] at hev
    cases hev

end

end DeviceStandby
