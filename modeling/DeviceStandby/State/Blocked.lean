import DeviceStandby.State.Wake

/-!
# Blocked states

`BlockCurrentState` marks a state that is not to be left for a deeper one, and `EnterStandby` is
where the mark is read. An evaluation that is running already, or that a task starts without asking
`EnterStandby`, delivers its result to the state object all the same. `blocked_stays_iff` says which
steps then leave a blocked state: those that deliver a success to a state that takes it for its way
down.
-/

namespace DeviceStandby

/-- The current state changes from one of WORKING, DARK and NAP to a deeper one of DARK, NAP and
SLEEP. -/
def MovesDeeper (s t : Service) : Prop :=
  (s.curState = .working ∨ s.curState = .dark ∨ s.curState = .nap) ∧
    (t.curState = .dark ∨ t.curState = .nap ∨ t.curState = .sleep) ∧
    s.curState.toNat < t.curState.toNat

/-- The current state takes a success for its way down. -/
def LeavesOnSuccess (cfg : StandbyConfig) (s : Service) : Prop :=
  match s.curState with
  | .working => True
  | .dark => cfg.darkNextState ≠ .dark
  | .nap => s.napState.curPhase = NapStatePhase.END ∧ s.napState.nextState ≠ .nap
  | .maintenance | .sleep => False

/-- The constraint manager is idle and finds no monitor for a request: the request succeeds at
once. -/
def SucceedsAtOnce (s : Service) (params : ConstraintEvalParam) : Prop :=
  s.constraintManager.isEvaluation = false ∧
    s.constraintManager.constraintMap.lookup params.getHashValue = none ∧
    s.constraintManager.hasStateManager = true

/-- The action delivers a success to the current state without asking `EnterStandby`. -/
def DeliversSuccess (s : Service) : Action → Prop
  | .runTask .motionTotalTimeOut _ => s.isEvalution = true
  | .runTask (.transitToNapPhase _) _ =>
    SucceedsAtOnce s ⟨.nap, s.napState.curPhase, .nap, s.napState.curPhase + 1, false⟩
  | .runTask .repeatedDetection _ =>
    SucceedsAtOnce s ⟨.sleep, s.sleepState.curPhase, .sleep, s.sleepState.curPhase, true⟩
  | _ => False

section
variable {cfg : StandbyConfig} {a : Action} {p : Platform} {s t u u' : Service}
  {nextState : StandbyState} {params : ConstraintEvalParam} {action : CommonEvent}

/-- Who stays in his state moves no deeper. -/
theorem not_movesDeeper_of_eq (h : t.curState = s.curState) : ¬ MovesDeeper s t := fun hm => by
  have hlt := hm.2.2
  rw [h] at hlt
  exact Nat.lt_irrefl _ hlt

/-- Nor does who wakes up. -/
theorem not_movesDeeper_of_working (h : t.curState = .working) : ¬ MovesDeeper s t := fun hm => by
  have hlt := hm.2.2
  rw [h] at hlt
  exact Nat.not_lt_zero _ hlt

/-- Moving deeper is a matter of the two states. -/
theorem movesDeeper_congr (hs : u.curState = s.curState) (ht : u'.curState = t.curState) :
    MovesDeeper u u' ↔ MovesDeeper s t := by
  unfold MovesDeeper
  rw [hs, ht]

/-! ## Results -/

/-- A success moves the states that take it for their way down. -/
theorem stateEndEval_movesDeeper :
    MovesDeeper s (stateEndEval cfg p true s) ↔ LeavesOnSuccess cfg s := by
  unfold stateEndEval LeavesOnSuccess
  cases hcur : s.curState with
  | working => exact iff_of_true ⟨.inl hcur, by simp [WorkingState.endEvalCurrentState, hcur,
      StandbyState.toNat]⟩ trivial
  | dark =>
    by_cases hnext : cfg.darkNextState = .dark
    · refine iff_of_false (not_movesDeeper_of_eq ?_) (not_not_intro hnext)
      simp [DarkState.endEvalCurrentState, hnext]
    · refine iff_of_true ⟨.inr (.inl hcur), ?_⟩ hnext
      unfold StandbyConfig.darkNextState at hnext
      split_ifs at hnext with hnap hsleep
      · simp [DarkState.endEvalCurrentState, StandbyConfig.darkNextState, hnap, hcur,
          StandbyState.toNat]
      · simp [DarkState.endEvalCurrentState, StandbyConfig.darkNextState, hnap, hsleep, hcur,
          StandbyState.toNat]
      · exact absurd rfl hnext
  | nap =>
    by_cases hphase : s.napState.curPhase = NapStatePhase.END
    · by_cases hnext : s.napState.nextState = .nap
      · refine iff_of_false (not_movesDeeper_of_eq ?_) fun h => h.2 hnext
        simp [NapState.endEvalCurrentState, NapState.handleEvalResToSleepState, hphase, hnext]
      · refine iff_of_true ⟨.inr (.inr hcur), ?_⟩ ⟨hphase, hnext⟩
        simp [NapState.endEvalCurrentState, NapState.handleEvalResToSleepState, hphase, hnext, hcur,
          StandbyState.toNat]
    · obtain ⟨_, _, _, hf⟩ := NapState.setPhaseTransitTask_frame true s
      refine iff_of_false (not_movesDeeper_of_eq ?_) fun h => hphase h.1
      simp only [NapState.endEvalCurrentState, if_neg hphase, hf]
  | maintenance | sleep =>
    exact iff_of_false (fun h => by simp [MovesDeeper, hcur] at h) id

/-- A failure moves no state deeper. -/
theorem stateEndEval_not_movesDeeper : ¬ MovesDeeper s (stateEndEval cfg p false s) := by
  unfold stateEndEval
  cases hcur : s.curState with
  | working =>
    refine not_movesDeeper_of_eq ?_
    simp only [WorkingState.endEvalCurrentState, Bool.false_eq_true, if_false]
    exact blockCurrentState_curState
  | dark =>
    refine not_movesDeeper_of_eq ?_
    simp only [DarkState.endEvalCurrentState, Bool.false_eq_true, not_false_eq_true, if_true]
    exact blockCurrentState_curState
  | nap =>
    by_cases hphase : s.napState.curPhase = NapStatePhase.END
    · refine not_movesDeeper_of_working ?_
      simp only [NapState.endEvalCurrentState, hphase, NapState.handleEvalResToSleepState,
        Bool.false_eq_true, not_false_eq_true, if_true]
      exact transitToWorking_curState
    · obtain ⟨_, _, _, hf⟩ := NapState.setPhaseTransitTask_frame false s
      refine not_movesDeeper_of_eq ?_
      simp only [NapState.endEvalCurrentState, if_neg hphase, hf]
  | maintenance | sleep => exact fun h => by simp [MovesDeeper, hcur] at h

/-- A result is delivered when an evaluation is running. -/
theorem endEvalCurrentState_movesDeeper :
    MovesDeeper s (endEvalCurrentState cfg p true s) ↔
      s.isEvalution = true ∧ LeavesOnSuccess cfg s := by
  obtain ⟨_, _, _, hf⟩ := finishEvalution_frame (s := s)
  unfold endEvalCurrentState
  by_cases hev : s.isEvalution = true
  · rw [if_neg (not_not_intro hev), and_iff_right hev]
    refine Iff.trans (movesDeeper_congr ?_ rfl).symm (stateEndEval_movesDeeper.trans ?_)
    · rw [hf]
      rfl
    · rw [hf]
      rfl
  · rw [if_pos hev]
    exact iff_of_false (not_movesDeeper_of_eq rfl) fun h => hev h.1

/-- An evaluation that fails moves no deeper. -/
theorem endEvalCurrentState_not_movesDeeper :
    ¬ MovesDeeper s (endEvalCurrentState cfg p false s) := by
  obtain ⟨_, _, _, hf⟩ := finishEvalution_frame (s := s)
  unfold endEvalCurrentState
  split_ifs
  · intro h
    refine stateEndEval_not_movesDeeper ((movesDeeper_congr ?_ rfl).2 h)
    rw [hf]
    rfl
  · exact not_movesDeeper_of_eq rfl

/-! ## Requests -/

/-- A request that the charge monitor does not answer moves the state when it succeeds at once. -/
theorem startEvalCurrentState_movesDeeper
    (hkind : ∀ m, s.constraintManager.constraintMap.lookup params.getHashValue = some m →
      m.kind ≠ .charge) :
    MovesDeeper s (startEvalCurrentState cfg p params s) ↔
      SucceedsAtOnce s params ∧ LeavesOnSuccess cfg s := by
  obtain ⟨hbusy, heq⟩ | ⟨-, m, hm, heq⟩ | ⟨hidle, hnone, hmanager, heq⟩ | ⟨-, -, hmanager, heq⟩ :=
    startEvalCurrentState_cases cfg p params s
  all_goals rw [heq]
  · refine iff_of_false (not_movesDeeper_of_eq rfl) fun h => ?_
    rw [h.1.1] at hbusy
    cases hbusy
  · refine iff_of_false (not_movesDeeper_of_eq ?_) fun h => ?_
    · unfold startMonitoring
      split
      case h_1 hcharge => exact absurd hcharge (hkind m hm)
      all_goals rw [periodlyStartMotionDetection_curState]; rfl
    · rw [h.1.2.1] at hm
      cases hm
  · have hsucceeds : SucceedsAtOnce s params := ⟨hidle, hnone, hmanager⟩
    rw [and_iff_right hsucceeds]
    refine Iff.trans (movesDeeper_congr ?_ rfl).symm (endEvalCurrentState_movesDeeper.trans ?_)
    · rfl
    · exact and_iff_right rfl
  · refine iff_of_false (not_movesDeeper_of_eq rfl) fun h => ?_
    rw [h.1.2.2] at hmanager
    cases hmanager

/-- `EnterStandby` refuses a blocked state. -/
theorem transitToState_not_movesDeeper (hblocked : s.isBlocked = true) :
    ¬ MovesDeeper s (transitToState cfg p nextState s).2 := by
  simp only [transitToState, transitToStateWith]
  split_ifs with hvalid heq hmaint hlt
  · exact not_movesDeeper_of_eq rfl
  · rcases hmaint with h | h
    · rintro ⟨-, ht, -⟩
      simp [transitWithMaint, h] at ht
    · rintro ⟨hs, -⟩
      simp [h] at hs
  · simp only [enterStandby, hblocked, if_true]
    exact not_movesDeeper_of_eq rfl
  · rintro ⟨-, -, h⟩
    simp only [exitStandby, transitToStateInner_toStateManagerAdapter] at h
    exact hlt h
  · exact not_movesDeeper_of_eq rfl

/-! ## Events -/

/-- An event that neither wakes the device nor holds it asleep leaves the state and its block
alone. -/
theorem respond_of_not_isHold (cfg : StandbyConfig) (p : Platform) (s : Service)
    (hwake : action.isWakeUp = false) (hhold : action.isHold = false) :
    (respond cfg p action s).curState = s.curState ∧
      (respond cfg p action s).isBlocked = s.isBlocked := by
  simp only [respond, hwake, Bool.false_eq_true, if_false]
  cases action with
  | screenOn | screenUnlocked | charging | usbDeviceAttached | lidOpen => cases hwake
  | enterForceSleep => cases hhold
  | screenOff | discharging | usbDeviceDetached | other => exact ⟨rfl, rfl⟩
  | userSleepStateChanged isSleep =>
    simp only [handleAction, handleUserSleepState]
    cases isSleep with
    | none => split_ifs <;> exact ⟨rfl, rfl⟩
    | some isSleepState =>
      cases isSleepState with
      | true => cases hhold
      | false =>
        obtain ⟨_, _, _, _, _, h⟩ := SleepState.beginState_frame cfg p
          (({ s with isSleepState := false } : Service).log .sleepRebegun)
        simp only [Bool.false_eq_true, if_false]
        split_ifs
        · exact ⟨rfl, rfl⟩
        · rw [h]
          exact ⟨rfl, rfl⟩
        · exact ⟨rfl, rfl⟩

/-- Such an event then finds WORKING blocked. -/
theorem handleCommonEvent_not_movesDeeper (hblocked : s.isBlocked = true)
    (hwake : action.isWakeUp = false) (hhold : action.isHold = false) :
    ¬ MovesDeeper s (handleCommonEvent cfg p action s) := by
  obtain ⟨_, _, _, hf⟩ := recordEvent_frame cfg p action s
  obtain ⟨hcur, hstill⟩ := respond_of_not_isHold cfg p (recordEvent cfg p action s) hwake hhold
  rw [handleCommonEvent_eq, tryEnterDark_eq]
  have hcur : (respond cfg p action (recordEvent cfg p action s)).curState = s.curState := by
    rw [hcur, hf]
  have hstill : (respond cfg p action (recordEvent cfg p action s)).isBlocked = true := by
    rw [hstill, hf]
    exact hblocked
  split_ifs with h
  · rw [transitToDark_blocked h.1 hstill]
    exact not_movesDeeper_of_eq hcur
  · exact not_movesDeeper_of_eq hcur

/-! ## Steps -/

/-- The task of `StartTransitNextState` finds the state blocked. -/
theorem runTransitNextState_not_movesDeeper {state : StandbyState} (hblocked : s.isBlocked = true) :
    ¬ MovesDeeper s (runTransitNextState cfg p state s) := by
  obtain ⟨_, _, _, _, hstop⟩ := stopEvalution_frame (s := s.acquireStandbyRunningLock)
  have hcur : (stopEvalution s.acquireStandbyRunningLock).curState = s.curState := by
    rw [hstop]
    rfl
  have hstill : (stopEvalution s.acquireStandbyRunningLock).isBlocked = true := by
    rw [hstop]
    exact hblocked
  exact fun h => transitToState_not_movesDeeper hstill
    ((movesDeeper_congr hcur runTransitNextState_curState.symm).2 h)

/-- What a task does to a blocked state. -/
theorem runTask_movesDeeper {task : Task} (hnap : s.napState.curPhase ≤ NapStatePhase.END)
    (hsleep : s.sleepState.curPhase ≤ SleepStatePhase.END)
    (hkind : ∀ params : ConstraintEvalParam, params.Bounded → params.curState ≠ .working →
      ∀ m, s.constraintManager.constraintMap.lookup params.getHashValue = some m →
        m.kind ≠ .charge)
    (hcheck : task = .checkScreenStatus → s.curState = .working)
    (hphase : ∀ acquire, task = .transitToSleepPhase acquire → s.curState = .sleep)
    (hblocked : s.isBlocked = true) :
    MovesDeeper s (runTask cfg p task s) ↔
      DeliversSuccess s (.runTask task p) ∧ LeavesOnSuccess cfg s := by
  cases task with
  | transitNextState state =>
    exact iff_of_false (runTransitNextState_not_movesDeeper hblocked) fun h => h.1
  | checkScreenStatus =>
    refine iff_of_false ?_ fun h => h.1
    simp only [runTask, WorkingState.checkScreenStatus]
    split_ifs
    · exact not_movesDeeper_of_eq rfl
    · rw [transitToDark_blocked (hcheck rfl) hblocked]
      exact not_movesDeeper_of_eq rfl
  | transitToNapPhase acquire =>
    have hfound := hkind ⟨.nap, s.napState.curPhase, .nap, s.napState.curPhase + 1, false⟩
      ⟨hnap, Nat.succ_le_succ hnap⟩ (by rintro ⟨⟩)
    cases acquire with
    | true => exact startEvalCurrentState_movesDeeper (s := s.acquireStandbyRunningLock) hfound
    | false => exact startEvalCurrentState_movesDeeper hfound
  | transitToSleepPhase acquire =>
    refine iff_of_false (fun h => ?_) fun h => h.1
    simp [MovesDeeper, hphase acquire rfl] at h
  | repeatedDetection =>
    have hfound := hkind ⟨.sleep, s.sleepState.curPhase, .sleep, s.sleepState.curPhase, true⟩
      ⟨hsleep, Nat.le_succ_of_le hsleep⟩ (by rintro ⟨⟩)
    exact startEvalCurrentState_movesDeeper
      (s := { s with sleepState.isRepeatedDetection := true }) hfound
  | motionTotalTimeOut => exact endEvalCurrentState_movesDeeper
  | motionDetected => exact iff_of_false endEvalCurrentState_not_movesDeeper fun h => h.1
  | stopMotionDetection m => exact iff_of_false (not_movesDeeper_of_eq rfl) fun h => h.1
  | periodlyStartMotionDetection m =>
    exact iff_of_false (not_movesDeeper_of_eq periodlyStartMotionDetection_curState) fun h => h.1

/-- The step handles an event that lifts the block: one that wakes the device or holds it asleep. -/
def LiftsBlock (s : Service) (a : Action) : Prop :=
  ∃ action, Handles s a action ∧ (action.isWakeUp = true ∨ action.isHold = true)

/-- A blocked state stays, over a step that lifts no block, exactly when the step does not deliver a
success to a state that takes it for its way down. -/
theorem blocked_stays_iff (hr : Lts.Reachable (system cfg) s)
    (hblocked : s.isBlocked = true) (hs : (system cfg).step s a = some t)
    (hlift : ¬ LiftsBlock s a) :
    ¬ MovesDeeper s t ↔ ¬ (DeliversSuccess s a ∧ LeavesOnSuccess cfg s) := by
  have hbasic : Basic s := basic_reachable hr
  have hreg : Registered s := registered_reachable hr
  have hown : OwnTasks s := ownTasks_reachable hr
  obtain ⟨hact, -⟩ := (system_step_iff cfg).1 hs
  refine not_congr ?_
  -- no other action delivers a result
  have hstays : ¬ MovesDeeper s t → (DeliversSuccess s a → False) →
      (MovesDeeper s t ↔ DeliversSuccess s a ∧ LeavesOnSuccess cfg s) :=
    fun hnot hno => iff_of_false hnot fun h => hno h.1
  cases a with
  | timerFire callback =>
    obtain ⟨_, rfl⟩ := timerFire_frame hact
    exact hstays (not_movesDeeper_of_eq rfl) id
  | timerCallback callback =>
    obtain ⟨-, rfl⟩ := act_timerCallback hact
    exact hstays (not_movesDeeper_of_eq runCallback_curState) id
  | sensorEvent m =>
    obtain ⟨-, rfl⟩ := act_sensorEvent hact
    exact hstays (not_movesDeeper_of_eq rfl) id
  | post message =>
    obtain ⟨-, rfl⟩ := act_post hact
    exact hstays (not_movesDeeper_of_eq rfl) id
  | dayNightSwitch condition =>
    cases hact
    exact hstays (not_movesDeeper_of_eq (by split_ifs <;> rfl)) id
  | initReadyState p =>
    obtain ⟨-, rfl⟩ := act_initReadyState hact
    cases hready : s.isServiceReady with
    | true => exact hstays (not_movesDeeper_of_eq (by rw [initReadyState_of_ready hready])) id
    | false =>
      obtain ⟨_, _, hf⟩ := initReadyState_frame cfg p hready
      exact hstays (not_movesDeeper_of_working (by rw [hf])) id
  | uninitReadyState p =>
    cases hact
    refine hstays ?_ id
    simp only [uninitReadyState, transitToState_working, StateManagerAdapter.unInit]
    split_ifs
    · obtain ⟨_, _, h⟩ := StateManagerAdapter.resetStates_frame cfg
        (transitToWorking cfg p (ConstraintManagerAdapter.unInit s))
      refine not_movesDeeper_of_working ?_
      rw [h]
      exact transitToWorking_curState
    · exact not_movesDeeper_of_eq rfl
  | runTask task p =>
    obtain ⟨hmem, rfl⟩ := act_runTask hact
    have htask : MovesDeeper { s with handler.tasks := s.handler.tasks.erase task }
        (runTask cfg p task { s with handler.tasks := s.handler.tasks.erase task }) ↔ _ :=
      runTask_movesDeeper hbasic.napPhase hbasic.sleepPhase
        (fun params hb hcur m hm => hreg.lookup_kind hb hcur hm)
        (fun h => hown.checkScreen (h ▸ hmem)) (fun acquire h => hown.sleepPhase acquire (h ▸ hmem))
        hblocked
    cases task <;> exact htask
  | dispatch p =>
    obtain ⟨message, queue, hqueue, rfl⟩ := act_dispatch hact
    refine hstays ?_ id
    unfold handleEvent
    split
    · rename_i action
      have hnot : ¬ (action.isWakeUp = true ∨ action.isHold = true) := fun h =>
        hlift ⟨action, ⟨p, rfl, queue, hqueue⟩, h⟩
      rw [not_or, Bool.not_eq_true, Bool.not_eq_true] at hnot
      exact handleCommonEvent_not_movesDeeper (s := { s with handler.queue := queue }) hblocked
        hnot.1 hnot.2
    · exact not_movesDeeper_of_eq rfl

/-- A task is no event. -/
theorem not_liftsBlock_runTask {task : Task} : ¬ LiftsBlock s (.runTask task p) := by
  rintro ⟨_, ⟨_, h, -⟩, -⟩
  cases h

/-- The sensors fail when NAP is to be left for SLEEP. -/
def sensorsFailRun : List Action :=
  napRun ++ elapsing .nap { samplePlatform with activateSensor := fun _ _ => false }

/-- A blocked state does not always stay: the total timeout that was posted before the sensors
failed takes NAP to SLEEP. -/
theorem blocked_not_always : ¬ ∀ (cfg : StandbyConfig) (s t : Service) (a : Action),
    Lts.Reachable (system cfg) s → s.isBlocked = true → (system cfg).step s a = some t →
    ¬ LiftsBlock s a → ¬ MovesDeeper s t := by
  intro h
  obtain ⟨s, t, hr, hs, hblocked, hnap, hsleep⟩ := (system sampleConfig).exists_step
    sensorsFailRun (.runTask .motionTotalTimeOut samplePlatform)
    (fun s t => s.isBlocked = true ∧ s.curState = .nap ∧ t.curState = .sleep) (by decide)
  refine h sampleConfig s t _ hr hblocked hs not_liftsBlock_runTask ⟨.inr (.inr hnap), ?_⟩
  rw [hnap, hsleep]
  exact ⟨.inr (.inr rfl), by decide⟩

/-- The timer of the blocked NAP opens a maintenance window. -/
theorem blocked_stays_nap : ∃ s t, Lts.Reachable (system sampleConfig) s ∧ s.isBlocked = true ∧
    (system sampleConfig).step s (.runTask (.transitNextState .nap) samplePlatform) = some t ∧
    ¬ MovesDeeper s t := by
  obtain ⟨s, t, hr, hs, hblocked⟩ := (system sampleConfig).exists_step
    (sensorsFailRun ++ [.timerFire (.startTransitNextState .nap),
      .timerCallback (.startTransitNextState .nap)])
    (.runTask (.transitNextState .nap) samplePlatform) (fun s _ => s.isBlocked = true) (by decide)
  exact ⟨s, t, hr, hblocked, hs,
    (blocked_stays_iff hr hblocked hs not_liftsBlock_runTask).2 fun h => h.1⟩

end

end DeviceStandby
