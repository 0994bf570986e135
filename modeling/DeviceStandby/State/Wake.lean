import DeviceStandby.State.Constraints

/-!
# Waking up and entering DARK

What a step leaves behind when it ends in WORKING (`wake_clean_iff`), and when an event begins DARK
(`enterDark_iff`). Every way to WORKING stops the evaluation and lifts the half-hour control, but
only `ExitStandby` clears `isBlocked_`: `TransitWithMaint` keeps a block from NAP through
MAINTENANCE. The same event then tries to enter DARK, and a device that is charging blocks WORKING
again. A block is not lifted by the end of charging, so a later event finds WORKING still blocked.
-/

namespace DeviceStandby

open Relation

section
variable {cfg : StandbyConfig} {s₀ : Service} {a : Action} {p : Platform} {s t : Service}
  {nextState : StandbyState} {action : CommonEvent}

/-! ## The way to WORKING -/

/-- A transition to WORKING leaves the half-hour control alone. -/
theorem transitToStateInner_working_halfHour :
    (transitToStateInner cfg p .working s).halfHour = s.halfHour := by
  obtain ⟨_, _, h⟩ := replaceState_frame cfg .working s
  simp only [transitToStateInner, h]
  split_ifs <;> rfl

/-- What is left after waking up: only `ExitStandby` clears the block, and only outside of
MAINTENANCE is the evaluation stopped. -/
theorem transitToWorking_flags (cfg : StandbyConfig) (p : Platform) (hne : s.curState ≠ .working) :
    (transitToWorking cfg p s).isBlocked = (s.isBlocked && s.curState == .maintenance) ∧
    (transitToWorking cfg p s).isEvalution = (s.isEvalution && s.curState == .maintenance) ∧
    (transitToWorking cfg p s).halfHour.scrOffHalfHourCtrl = false ∧
    (transitToWorking cfg p s).isScreenOn = s.isScreenOn := by
  obtain ⟨_, _, _, _, hstop⟩ := stopEvalution_frame (s := s)
  rw [transitToWorking_eq, if_neg hne]
  split_ifs with hmaint
  · simp [transitToStateInner_working_halfHour, hmaint]
  · simp [transitToStateInner_working_halfHour, hmaint, unblockCurrentState, hstop]

/-- Waking up leaves the constraint manager idle when it was so or the state manager was
evaluating. -/
theorem transitToWorking_isEvaluation
    (hidle : s.constraintManager.isEvaluation = true →
      s.isEvalution = true ∧ s.curState ≠ .maintenance) (hne : s.curState ≠ .working) :
    (transitToWorking cfg p s).constraintManager.isEvaluation = false := by
  rw [transitToWorking_eq, if_neg hne]
  refine Bool.eq_false_iff.2 fun h => ?_
  split_ifs at h with hmaint
  · simp only [transitToStateInner_constraintManager, liftHalfHourCtrl_constraintManager] at h
    exact (hidle h).2 hmaint
  · simp only [transitToStateInner_constraintManager, liftHalfHourCtrl_constraintManager,
      unblockCurrentState] at h
    obtain ⟨hs, hev⟩ := stopEvalution_isEvaluation h
    rw [(hidle hs).1] at hev
    cases hev

/-! ## The way to DARK -/

/-- A result of WORKING begins DARK, or blocks WORKING. -/
theorem endEvalCurrentState_working (cfg : StandbyConfig) (p : Platform) (evalResult : Bool)
    (hcur : s.curState = .working)
    (hev : s.isEvalution = true) :
    (endEvalCurrentState cfg p evalResult s).curState =
        (if evalResult then .dark else .working) ∧
      (endEvalCurrentState cfg p evalResult s).isBlocked = (s.isBlocked || !evalResult) ∧
      (endEvalCurrentState cfg p evalResult s).isServiceReady = s.isServiceReady := by
  obtain ⟨_, _, _, h⟩ := finishEvalution_frame (s := s)
  simp only [endEvalCurrentState, hev, not_true_eq_false, if_false, h, Service.log, stateEndEval,
    hcur, WorkingState.endEvalCurrentState]
  cases evalResult <;> simp [blockCurrentState]

/-- An idle WORKING asks the constraint manager before it begins DARK. -/
theorem transitToDark_eq (hcur : s.curState = .working) (hblocked : s.isBlocked = false) :
    (transitToState cfg p .dark s).2 = startEvalCurrentState cfg p chargeParams s := by
  simp [transitToState, transitToStateWith, hcur, checkTransitionValid, StandbyState.toNat,
    enterStandby, hblocked, Service.curInnerPhase]

/-- From WORKING, the charge monitor answers at once: DARK begins, or WORKING is blocked. -/
theorem transitToDark_spec (cfg : StandbyConfig) (p : Platform) {m : Monitor}
    (hcur : s.curState = .working)
    (hblocked : s.isBlocked = false) (hidle : s.constraintManager.isEvaluation = false)
    (hcharge : s.constraintManager.constraintMap.lookup chargeParams.getHashValue = some m)
    (hkind : m.kind = .charge) :
    (transitToState cfg p .dark s).2.curState = (if p.isCharging then .working else .dark) ∧
      (transitToState cfg p .dark s).2.isBlocked = p.isCharging := by
  simp only [transitToDark_eq hcur hblocked, startEvalCurrentState,
    ConstraintManagerAdapter.startEvalution, hidle, Bool.false_eq_true, if_false, hcharge,
    startMonitoring, hkind]
  obtain ⟨h1, h2, -⟩ := endEvalCurrentState_working cfg p (!p.isCharging) (s := { s with
      isEvalution := true
      constraintManager.isEvaluation := true
      constraintManager.curMonitor := some m
      trace := .acceptEval chargeParams :: .startEval chargeParams :: s.trace }) hcur rfl
  rw [h1, h2]
  cases p.isCharging <;> simp [hblocked]

/-- A blocked WORKING refuses DARK. -/
theorem transitToDark_blocked (hcur : s.curState = .working) (hblocked : s.isBlocked = true) :
    (transitToState cfg p .dark s).2 = s := by
  simp [transitToState, transitToStateWith, hcur, checkTransitionValid, StandbyState.toNat,
    enterStandby, hblocked]

/-! ## Steps that do not wake the device -/

/-- DARK does not lead to WORKING. -/
theorem darkNextState_ne_working : cfg.darkNextState ≠ .working := by
  unfold StandbyConfig.darkNextState
  split_ifs <;> decide

/-- A block does not change the state. -/
theorem blockCurrentState_curState : (blockCurrentState cfg p s).curState = s.curState := by
  obtain ⟨_, _, _, h⟩ := blockCurrentState_frame cfg p s
  rw [h]

/-- The end of a phase of SLEEP does not change the state. -/
theorem endEvalPhase_curState {evalResult : Bool} :
    (SleepState.endEvalPhase cfg p evalResult s).curState = s.curState := by
  obtain ⟨_, _, _, _, hf⟩ := SleepState.endEvalPhase_frame cfg p evalResult s
  rw [hf]

/-- `TransitHoldSleepState` enters SLEEP. -/
theorem transitHoldSleepState_curState : (transitHoldSleepState cfg p s).curState = .sleep := by
  simp only [transitHoldSleepState, stopRepeatedTimedTask, stopTransitTimedTask]
  split_ifs with hcur
  · simp
  · simpa using hcur

/-- A result does not wake the device, unless NAP or SLEEP takes `false` for a motion. -/
theorem stateEndEval_curState {evalResult : Bool} (hne : s.curState ≠ .working)
    (hres : evalResult = true ∨ s.curState = .dark ∨ s.curState = .maintenance) :
    (stateEndEval cfg p evalResult s).curState ≠ .working := by
  unfold stateEndEval
  split
  case h_1 hw => exact absurd hw hne
  case h_2 =>
    simp only [DarkState.endEvalCurrentState]
    split_ifs
    · simpa using darkNextState_ne_working
    · exact hne
    · rwa [blockCurrentState_curState]
  case h_3 hnap =>
    have hres : evalResult = true := by simpa [hnap] using hres
    subst hres
    simp only [NapState.endEvalCurrentState, NapState.handleEvalResToSleepState,
      not_true_eq_false, if_false]
    obtain ⟨_, _, _, hphase⟩ := NapState.setPhaseTransitTask_frame true s
    split_ifs
    · simp
    · exact hne
    · rwa [hphase]
  case h_4 => exact hne
  case h_5 hsleep =>
    have hres : evalResult = true := by simpa [hsleep] using hres
    subst hres
    simp only [SleepState.endEvalCurrentState, not_true_eq_false, false_and, if_false]
    obtain ⟨_, _, _, _, hphase⟩ := SleepState.endEvalPhase_frame cfg p true s
    split_ifs
    · rwa [hphase]
    · exact hne

/-- The end of an evaluation wakes the device from NAP and SLEEP only, and only when it failed. -/
theorem endEvalCurrentState_curState {evalResult : Bool} (hne : s.curState ≠ .working)
    (hres : evalResult = true ∨ s.curState = .dark ∨ s.curState = .maintenance) :
    (endEvalCurrentState cfg p evalResult s).curState ≠ .working := by
  obtain ⟨_, _, _, h⟩ := finishEvalution_frame (s := s)
  unfold endEvalCurrentState
  split_ifs
  · exact stateEndEval_curState (by rw [h]; exact hne) (by rw [h]; exact hres)
  · exact hne

/-- A detection that starts does not change the state. -/
theorem periodlyStartMotionDetection_curState {m : Monitor} :
    (periodlyStartMotionDetection cfg p m s).curState = s.curState := by
  unfold periodlyStartMotionDetection
  split
  · rfl
  · exact blockCurrentState_curState

/-- Nor does an evaluation that is not the charge monitor's. -/
theorem startEvalCurrentState_curState {params : ConstraintEvalParam} (hne : s.curState ≠ .working)
    (hkind : ∀ m, s.constraintManager.constraintMap.lookup params.getHashValue = some m →
      m.kind ≠ .charge) :
    (startEvalCurrentState cfg p params s).curState ≠ .working := by
  obtain ⟨-, heq⟩ | ⟨-, m, hm, heq⟩ | ⟨-, -, -, heq⟩ | ⟨-, -, -, heq⟩ :=
    startEvalCurrentState_cases cfg p params s
  all_goals rw [heq]
  · exact hne
  · unfold startMonitoring
    split
    case h_1 hcharge => exact absurd hcharge (hkind m hm)
    all_goals rwa [periodlyStartMotionDetection_curState]
  · exact endEvalCurrentState_curState hne (.inl rfl)
  · exact hne

/-- Nor does a transition that asks for another state. -/
theorem transitToState_curState (hne : s.curState ≠ .working) (hnext : nextState ≠ .working)
    (hkind : ∀ m, s.constraintManager.constraintMap.lookup
      (⟨s.curState, s.curInnerPhase, nextState, 0, false⟩ : ConstraintEvalParam).getHashValue =
        some m → m.kind ≠ .charge) :
    (transitToState cfg p nextState s).2.curState ≠ .working := by
  simp only [transitToState, transitToStateWith]
  split_ifs
  · exact hne
  · simpa [transitWithMaint] using hnext
  · simp only [enterStandby]
    split_ifs
    · exact hne
    · exact startEvalCurrentState_curState hne hkind
  · simpa [exitStandby] using hnext
  · exact hne

/-- The task of `StartTransitNextState` changes the state as its request does. -/
theorem runTransitNextState_curState {state : StandbyState} :
    (runTransitNextState cfg p state s).curState =
      (transitToState cfg p (nextStateOf cfg state (stopEvalution s.acquireStandbyRunningLock))
        (stopEvalution s.acquireStandbyRunningLock)).2.curState := by
  simp only [runTransitNextState]
  split
  case h_1 h => rw [h]
  case h_2 h =>
    rw [h]
    exact blockCurrentState_curState

/-- No phase is beyond the last one of NAP. -/
theorem Basic.curInnerPhase_le (h : Basic s) : s.curInnerPhase ≤ NapStatePhase.END := by
  unfold Service.curInnerPhase
  split
  · exact h.napPhase
  · exact h.sleepPhase
  · exact Nat.zero_le _

/-- A pending task other than a detected motion does not wake the device when timers belong to the
current state. -/
theorem runTask_curState {task : Task} (hsched : Scheduled s) (hbasic : Basic s)
    (hreg : Registered s) (hown : OwnTasks s) (hmem : task ∈ s.handler.tasks)
    (hne : s.curState ≠ .working) (htask : task ≠ .motionDetected) :
    (runTask cfg p task { s with handler.tasks := s.handler.tasks.erase task }).curState ≠
      .working := by
  -- no request of this task finds the charge monitor
  have hkind : ∀ params : ConstraintEvalParam, params.Bounded → params.curState ≠ .working →
      ∀ m, s.constraintManager.constraintMap.lookup params.getHashValue = some m →
        m.kind ≠ .charge := fun params hb hcur m hm => hreg.lookup_kind hb hcur hm
  cases task with
  | transitNextState state =>
    obtain ⟨hcur, hstate⟩ := hsched.transit state hmem
    have hnext : nextStateOf cfg state s ≠ .working := by
      cases state with
      | working => exact absurd rfl hstate
      | dark => exact darkNextState_ne_working
      | nap => rcases hbasic.napNext with h | h | h <;> simp [nextStateOf, h]
      | maintenance =>
        rw [nextStateOf, hsched.maintNext hcur.symm]
        rcases hsched.maintPre hcur.symm with h | h <;> simp [h]
      | sleep => simp [nextStateOf]
    have hlock : Alike s ({ s with
        handler.tasks := s.handler.tasks.erase (.transitNextState state) } :
          Service).acquireStandbyRunningLock := ⟨rfl, rfl, rfl, rfl, rfl, rfl, rfl⟩
    have halike := hlock.trans alike_stopEvalution
    have hsame : SameSince s s := ⟨rfl, rfl, rfl, rfl, rfl, rfl⟩
    simp only [runTask]
    rw [runTransitNextState_curState, (hsame.alike halike).nextStateOf]
    refine transitToState_curState (by rwa [halike.curState]) hnext ?_
    rw [halike.curState, halike.curInnerPhase, halike.constraintMap]
    exact hkind _ ⟨hbasic.curInnerPhase_le, Nat.zero_le _⟩ hne
  | checkScreenStatus => exact absurd (hown.checkScreen hmem) hne
  | transitToNapPhase acquire =>
    have hbound := hbasic.napPhase
    cases acquire <;> exact startEvalCurrentState_curState hne
      (hkind _ ⟨hbound, Nat.succ_le_succ hbound⟩ (by rintro ⟨⟩))
  | transitToSleepPhase acquire =>
    have hbound := hbasic.sleepPhase
    cases acquire <;> exact startEvalCurrentState_curState hne
      (hkind _ ⟨hbound, Nat.succ_le_succ hbound⟩ (by rintro ⟨⟩))
  | repeatedDetection =>
    have hbound := hbasic.sleepPhase
    exact startEvalCurrentState_curState hne
      (hkind _ ⟨hbound, Nat.le_succ_of_le hbound⟩ (by rintro ⟨⟩))
  | motionTotalTimeOut => exact endEvalCurrentState_curState hne (.inl rfl)
  | motionDetected => exact absurd rfl htask
  | stopMotionDetection m => exact hne
  | periodlyStartMotionDetection m =>
    rw [runTask, periodlyStartMotionDetection_curState]
    exact hne

/-! ## A step that ends in WORKING -/

/-- No flag of the standby that was left is set. -/
structure Clean (s : Service) : Prop where
  isBlocked : s.isBlocked = false
  isEvalution : s.isEvalution = false
  scrOffHalfHourCtrl : s.halfHour.scrOffHalfHourCtrl = false

/-- Waking up is clean but for a block of MAINTENANCE, which never evaluates. -/
theorem transitToWorking_clean (cfg : StandbyConfig) (p : Platform) (hne : s.curState ≠ .working)
    (hidle : s.curState = .maintenance → s.isEvalution = false) :
    Clean (transitToWorking cfg p s) ↔ ¬ (s.curState = .maintenance ∧ s.isBlocked = true) := by
  obtain ⟨h1, h2, h3, -⟩ := transitToWorking_flags cfg p hne
  constructor
  · rintro ⟨hb, -, -⟩ ⟨hm, hs⟩
    rw [h1, hs, hm] at hb
    cases hb
  · intro h
    refine ⟨?_, ?_, h3⟩
    · rw [h1]
      cases hs : s.isBlocked <;> simp_all
    · rw [h2]
      by_cases hm : s.curState = .maintenance
      · rw [hidle hm]; rfl
      · simp [hm]

/-- A motion that wakes NAP or SLEEP leaves it cleanly. -/
theorem stateEndEval_clean (hne : s.curState ≠ .working)
    (hcur : (stateEndEval cfg p false s).curState = .working) :
    Clean (stateEndEval cfg p false s) := by
  have hdark : s.curState ≠ .dark := fun h => stateEndEval_curState hne (.inr (.inl h)) hcur
  have hmaint : s.curState ≠ .maintenance := fun h =>
    stateEndEval_curState hne (.inr (.inr h)) hcur
  have hwake : Clean (transitToWorking cfg p s) :=
    (transitToWorking_clean cfg p hne fun h => absurd h hmaint).2 fun h => hmaint h.1
  cases hs : s.curState with
  | working => exact absurd hs hne
  | dark => exact absurd hs hdark
  | maintenance => exact absurd hs hmaint
  | nap =>
    simp only [stateEndEval, hs, NapState.endEvalCurrentState, NapState.handleEvalResToSleepState,
      Bool.false_eq_true, not_false_eq_true, if_true] at hcur ⊢
    split_ifs at hcur ⊢
    · exact hwake
    · obtain ⟨_, _, _, h⟩ := NapState.setPhaseTransitTask_frame false s
      rw [h] at hcur
      exact absurd hcur hne
  | sleep =>
    simp only [stateEndEval, hs, SleepState.endEvalCurrentState, Bool.false_eq_true,
      not_false_eq_true, true_and] at hcur ⊢
    split_ifs at hcur ⊢
    · obtain ⟨_, _, _, _, h⟩ := SleepState.endEvalPhase_frame cfg p false s
      rw [h] at hcur
      exact absurd hcur hne
    · exact ⟨hwake.1, hwake.2, hwake.3⟩
    · exact absurd hcur hne

/-- An evaluation that fails and wakes the device leaves nothing behind. -/
theorem endEvalCurrentState_clean (hne : s.curState ≠ .working)
    (hcur : (endEvalCurrentState cfg p false s).curState = .working) :
    Clean (endEvalCurrentState cfg p false s) ∧ s.curState ≠ .maintenance := by
  refine ⟨?_, fun hm => endEvalCurrentState_curState hne (.inr (.inr hm)) hcur⟩
  obtain ⟨_, _, _, hfin⟩ := finishEvalution_frame (s := s)
  unfold endEvalCurrentState at hcur ⊢
  split_ifs at hcur ⊢
  · exact stateEndEval_clean (by rw [hfin]; exact hne) hcur
  · exact absurd hcur hne

/-- An event that does not wake the device holds it asleep, or leaves the state as it is. -/
theorem respond_curState (cfg : StandbyConfig) (p : Platform) (s : Service)
    (hwake : action.isWakeUp = false) :
    (respond cfg p action s).curState = s.curState ∨
      (respond cfg p action s).curState = .sleep := by
  simp only [respond, hwake, Bool.false_eq_true, if_false]
  cases action with
  | screenOn | screenUnlocked | charging | usbDeviceAttached | lidOpen => cases hwake
  | screenOff | discharging | usbDeviceDetached | other => exact .inl rfl
  | enterForceSleep => exact .inr transitHoldSleepState_curState
  | userSleepStateChanged isSleep =>
    cases isSleep with
    | none =>
      simp only [handleAction, handleUserSleepState]
      exact .inl (by split_ifs <;> rfl)
    | some isSleepState =>
      simp only [handleAction, handleUserSleepState]
      obtain ⟨_, _, _, _, _, h⟩ := SleepState.beginState_frame cfg p
        (({ s with isSleepState := isSleepState } : Service).log .sleepRebegun)
      split_ifs
      · exact .inl rfl
      · exact .inr transitHoldSleepState_curState
      · rw [h]
        exact .inl rfl
      · exact .inl rfl

/-- The attempt to enter DARK, with its two tests as one. -/
theorem tryEnterDark_eq :
    tryEnterDark cfg p action s =
      if s.curState = .working ∧ s.isScreenOn = false then (transitToState cfg p .dark s).2
      else s := by
  unfold tryEnterDark
  rw [checkEnterDarkState_eq]
  by_cases hcur : s.curState = .working <;> by_cases hscreen : s.isScreenOn = true <;>
    simp [hcur, hscreen]

/-- An event that ends in WORKING has left standby cleanly, but for a block of MAINTENANCE and for
the new block of a charging device. -/
theorem handleCommonEvent_clean {m : Monitor} (hne : s.curState ≠ .working)
    (hmaint : s.curState = .maintenance → s.isEvalution = false)
    (heval : s.constraintManager.isEvaluation = true → s.isEvalution = true)
    (hcharge : s.constraintManager.constraintMap.lookup chargeParams.getHashValue = some m)
    (hkind : m.kind = .charge) (hcur : (handleCommonEvent cfg p action s).curState = .working) :
    Clean (handleCommonEvent cfg p action s) ↔
      ¬ (s.curState = .maintenance ∧ s.isBlocked = true) ∧
        ¬ (screenOnAfter action s = false ∧ p.isCharging = true) := by
  rw [handleCommonEvent_eq] at hcur ⊢
  obtain ⟨_, _, _, hframe⟩ := recordEvent_frame cfg p action s
  have hscreen := recordEvent_isScreenOn cfg p action s
  generalize recordEvent cfg p action s = u at hframe hscreen hcur ⊢
  have hstate : u.curState = s.curState := by rw [hframe]
  have hblocked : u.isBlocked = s.isBlocked := by rw [hframe]
  rw [← hstate, ← hblocked, ← hscreen]
  cases hwake : action.isWakeUp with
  | false =>
    -- the state is SLEEP or as before, and then DARK is not tried
    have hstill : (respond cfg p action u).curState ≠ .working := by
      rcases respond_curState cfg p u hwake with h | h
      · rw [h, hstate]
        exact hne
      · rw [h]
        decide
    rw [tryEnterDark_eq, if_neg fun h => hstill h.1] at hcur
    exact absurd hcur hstill
  | true =>
    rw [← hstate] at hne
    simp only [respond, hwake, if_true] at hcur ⊢
    have hclean := transitToWorking_clean cfg p hne fun h => by
      rw [hframe]
      exact hmaint (hstate ▸ h)
    obtain ⟨hb, -, -, hs⟩ := transitToWorking_flags cfg p hne
    have hidle : (transitToWorking cfg p u).constraintManager.isEvaluation = false :=
      transitToWorking_isEvaluation (fun h => by
        rw [hframe] at h ⊢
        refine ⟨heval h, fun hm => ?_⟩
        have := heval h
        rw [hmaint hm] at this
        cases this) hne
    have hw : (transitToWorking cfg p u).curState = .working := transitToWorking_curState
    have hmap : (transitToWorking cfg p u).constraintManager.constraintMap.lookup
        chargeParams.getHashValue = some m := by
      rw [transitToWorking_constraintMap, hframe]
      exact hcharge
    rw [tryEnterDark_eq, hs, hw] at hcur ⊢
    simp only [true_and] at hcur ⊢
    cases hon : u.isScreenOn with
    | true => simpa using hclean
    | false =>
      simp only [hon, if_true] at hcur ⊢
      cases hwb : (transitToWorking cfg p u).isBlocked with
      | true =>
        rw [transitToDark_blocked hw hwb]
        have hnot : ¬ Clean (transitToWorking cfg p u) := fun h => by
          rw [h.isBlocked] at hwb
          cases hwb
        exact iff_of_false hnot fun h => hnot (hclean.2 h.1)
      | false =>
        obtain ⟨hc, hb'⟩ := transitToDark_spec cfg p hw hwb hidle hmap hkind
        cases hcharging : p.isCharging with
        | true =>
          rw [hcharging] at hb'
          refine iff_of_false (fun h => ?_) fun h => h.2 ⟨trivial, rfl⟩
          rw [h.isBlocked] at hb'
          cases hb'
        | false =>
          rw [hcharging, hcur] at hc
          cases hc

/-- The step handles a common event with the screen off while the device is charging. -/
def ChargingScreenOff (s : Service) (a : Action) : Prop :=
  ∃ action queue p, a = .dispatch p ∧ s.handler.queue = .commonEvent action :: queue ∧
    screenOnAfter action s = false ∧ p.isCharging = true

/-- A step that leaves standby for WORKING leaves it cleanly, unless it leaves MAINTENANCE while
that is blocked, or an event wakes a charging device whose screen stays off. -/
theorem wake_clean_iff (hdrains : cfg.stopTimerDrains = true)
    (hr : Lts.Reachable (system cfg) s) (hs : (system cfg).step s a = some t)
    (hne : s.curState ≠ .working) (hcur : t.curState = .working) :
    Clean t ↔ ¬ (s.curState = .maintenance ∧ s.isBlocked = true) ∧ ¬ ChargingScreenOff s a := by
  have hown : OwnTasks s := ownTasks_reachable hr
  have hbasic : Basic s := basic_reachable hr
  have hreg : Registered s := registered_reachable hr
  have hsched : Scheduled s := scheduled_reachable hdrains hr
  obtain ⟨hact, -⟩ := (system_step_iff cfg).1 hs
  -- the actions that leave the state as it is
  have hsame : t.curState ≠ s.curState := fun h => hne (h ▸ hcur)
  cases a with
  | timerFire callback =>
    obtain ⟨_, rfl⟩ := timerFire_frame hact
    exact absurd rfl hsame
  | timerCallback callback =>
    obtain ⟨-, rfl⟩ := act_timerCallback hact
    exact absurd runCallback_curState hsame
  | sensorEvent m =>
    obtain ⟨-, rfl⟩ := act_sensorEvent hact
    exact absurd rfl hsame
  | post message =>
    obtain ⟨-, rfl⟩ := act_post hact
    exact absurd rfl hsame
  | dayNightSwitch condition =>
    cases hact
    exact absurd (by split_ifs <;> rfl) hsame
  | initReadyState p =>
    obtain ⟨-, rfl⟩ := act_initReadyState hact
    cases hready : s.isServiceReady with
    | true =>
      rw [initReadyState_of_ready hready] at hsame
      exact absurd rfl hsame
    | false => exact absurd (hbasic.notReady hready) hne
  | uninitReadyState p =>
    cases hact
    simp only [uninitReadyState, transitToState_working, StateManagerAdapter.unInit] at hcur hsame ⊢
    split_ifs at hcur hsame ⊢
    · obtain ⟨_, _, h⟩ := StateManagerAdapter.resetStates_frame cfg
        (transitToWorking cfg p (ConstraintManagerAdapter.unInit s))
      have hclean := transitToWorking_clean cfg p (s := ConstraintManagerAdapter.unInit s) hne
        hsched.maintIdle
      rw [h]
      have hnot : ¬ ChargingScreenOff s (.uninitReadyState p) := by
        rintro ⟨_, _, _, ha, _⟩
        cases ha
      exact Iff.trans ⟨fun hc => ⟨hc.1, hc.2, hc.3⟩, fun hc => ⟨hc.1, hc.2, hc.3⟩⟩
        (hclean.trans ⟨fun h => ⟨h, hnot⟩, fun h => h.1⟩)
    · exact absurd rfl hsame
  | runTask task p =>
    obtain ⟨hmem, rfl⟩ := act_runTask hact
    by_cases htask : task = .motionDetected
    · subst htask
      have hnot : ¬ ChargingScreenOff s (.runTask .motionDetected p) := by
        rintro ⟨_, _, _, ha, _⟩
        cases ha
      have hstate : ({ s with handler.tasks := s.handler.tasks.erase .motionDetected } :
          Service).curState = s.curState := rfl
      generalize ({ s with handler.tasks := s.handler.tasks.erase .motionDetected } : Service) = u
        at hcur hstate ⊢
      rw [← hstate] at hne
      obtain ⟨hclean, hmaint⟩ := endEvalCurrentState_clean hne hcur
      exact iff_of_true hclean ⟨fun h => hmaint (hstate.trans h.1), hnot⟩
    · exact absurd hcur (runTask_curState hsched hbasic hreg hown hmem hne htask)
  | dispatch p =>
    obtain ⟨message, queue, hqueue, rfl⟩ := act_dispatch hact
    unfold handleEvent at hcur hsame ⊢
    split at hcur
    · rename_i action
      refine (handleCommonEvent_clean (s := { s with handler.queue := queue }) hne
        hsched.maintIdle hbasic.evaluation (hreg.charge (hbasic.ready hne)) rfl hcur).trans
          (and_congr_right fun _ => not_congr ⟨?_, ?_⟩)
      · rintro ⟨h1, h2⟩
        exact ⟨action, queue, p, rfl, hqueue, h1, h2⟩
      · rintro ⟨action', queue', p', ha, hqueue', h1, h2⟩
        cases ha
        rw [hqueue] at hqueue'
        cases hqueue'
        exact ⟨h1, h2⟩
    · exact absurd hcur hne

/-- NAP is entered and runs through its phases. -/
def napRun : List Action :=
  .initReadyState samplePlatform :: handling .screenOff samplePlatform ++
    [.dispatch samplePlatform] ++ elapsing .dark samplePlatform ++ [.dispatch samplePlatform] ++
    [.runTask (.transitToNapPhase true) samplePlatform, .dispatch samplePlatform,
      .runTask (.transitToNapPhase false) samplePlatform, .dispatch samplePlatform,
      .runTask (.transitToNapPhase false) samplePlatform, .dispatch samplePlatform]

/-- The sensors fail when NAP is to be left for SLEEP: NAP is blocked, and its timer then opens a
maintenance window. -/
def blockedMaintenanceRun : List Action :=
  napRun ++ elapsing .nap { samplePlatform with activateSensor := fun _ _ => false } ++
    elapsing .nap samplePlatform ++ [.dispatch samplePlatform]

/-- Not every step that ends in WORKING is clean: SCREEN_ON leaves a blocked MAINTENANCE for a
WORKING that is still blocked. -/
theorem wake_not_clean : ¬ ∀ (cfg : StandbyConfig) (s t : Service) (a : Action),
    cfg.stopTimerDrains = true → Lts.Reachable (system cfg) s → (system cfg).step s a = some t →
    s.curState ≠ .working → t.curState = .working → Clean t := by
  intro h
  obtain ⟨s, t, hr, hs, hne, hcur, hblocked⟩ := (system sampleConfig).exists_step
    (blockedMaintenanceRun ++ [.post (.commonEvent .screenOn)]) (.dispatch samplePlatform)
    (fun s t => s.curState = .maintenance ∧ t.curState = .working ∧ t.isBlocked = true) (by decide)
  have hclean := h sampleConfig s t _ rfl hr hs (by rw [hne]; decide) hcur
  rw [hclean.isBlocked] at hblocked
  cases hblocked

/-- SCREEN_ON in NAP leaves it cleanly. -/
theorem wake_clean_nap : ∃ s t, Lts.Reachable (system sampleConfig) s ∧
    (system sampleConfig).step s (.dispatch samplePlatform) = some t ∧
    s.curState = .nap ∧ t.curState = .working ∧ Clean t := by
  obtain ⟨s, t, hr, hs, hnap, hcur, hhead⟩ := (system sampleConfig).exists_step
    (napRun ++ [.post (.commonEvent .screenOn)]) (.dispatch samplePlatform)
    (fun s t => s.curState = .nap ∧ t.curState = .working ∧
      s.handler.queue.head? = some (.commonEvent .screenOn)) (by decide)
  refine ⟨s, t, hr, hs, hnap, hcur,
    (wake_clean_iff rfl hr hs (by rw [hnap]; decide) hcur).2 ⟨fun h => ?_, ?_⟩⟩
  · rw [hnap] at h
    cases h.1
  · rintro ⟨action, queue, p, -, hqueue, hscreen, -⟩
    rw [hqueue] at hhead
    cases hhead
    cases hscreen

/-! ## An event that may begin DARK -/

/-- Without a monitor the attempt to enter DARK does not make the service ready. -/
theorem transitToDark_isServiceReady (hcur : s.curState = .working) (hblocked : s.isBlocked = false)
    (hidle : s.constraintManager.isEvaluation = false)
    (hmap : s.constraintManager.constraintMap = []) :
    (transitToState cfg p .dark s).2.isServiceReady = s.isServiceReady := by
  have hnone : s.constraintManager.constraintMap.lookup chargeParams.getHashValue = none := by
    rw [hmap]
    rfl
  simp only [transitToDark_eq hcur hblocked, startEvalCurrentState,
    ConstraintManagerAdapter.startEvalution, hidle, Bool.false_eq_true, if_false, hnone]
  split_ifs
  · exact (endEvalCurrentState_working cfg p true (s := { s with
      isEvalution := true
      constraintManager.isEvaluation := true
      constraintManager.curMonitor := none
      trace := .acceptEval chargeParams :: .startEval chargeParams :: s.trace }) hcur rfl).2.2
  · rfl

/-- An event that finds WORKING idle and the screen off, with the battery not charging, begins DARK
exactly when no block is left from before (and the service is ready). -/
theorem enterDark_iff {queue : List StandbyMessage} (hr : Lts.Reachable (system cfg) s)
    (hcur : s.curState = .working) (hev : s.isEvalution = false)
    (hqueue : s.handler.queue = .commonEvent action :: queue)
    (haction : action = .screenOff ∨ action = .discharging ∨ action = .usbDeviceDetached)
    (hscreen : screenOnAfter action s = false) (hcharging : p.isCharging = false)
    (hs : (system cfg).step s (.dispatch p) = some t) :
    t.curState = .dark ↔ s.isBlocked = false ∧ s.isServiceReady = true := by
  have hbasic : Basic s := basic_reachable hr
  have hreg : Registered s := registered_reachable hr
  have ht : Basic t := basic_reachable (hr.step trivial hs)
  obtain ⟨hact, -⟩ := (system_step_iff cfg).1 hs
  have hidle : s.constraintManager.isEvaluation = false :=
    Bool.eq_false_iff.2 fun h => by rw [hbasic.evaluation h] at hev; cases hev
  -- the event is recorded, and then only DARK is tried
  have hrespond : ∀ u, respond cfg p action u = u := fun u => by
    rcases haction with rfl | rfl | rfl <;> rfl
  have hact := act_commonEvent hqueue hact
  rw [handleCommonEvent_eq, hrespond] at hact
  obtain ⟨_, _, _, hframe⟩ := recordEvent_frame cfg p action { s with handler.queue := queue }
  have hon := recordEvent_isScreenOn cfg p action { s with handler.queue := queue }
  generalize recordEvent cfg p action { s with handler.queue := queue } = u at hframe hon hact
  have hstate : u.curState = .working := by rw [hframe]; exact hcur
  have hscreen' : u.isScreenOn = false := by
    rw [hon, ← hscreen]
    rfl
  rw [tryEnterDark_eq, if_pos ⟨hstate, hscreen'⟩] at hact
  cases hblocked : s.isBlocked with
  | true =>
    have hub : u.isBlocked = true := by rw [hframe]; exact hblocked
    rw [transitToDark_blocked hstate hub] at hact
    rw [← hact, hstate]
    exact iff_of_false (by rintro ⟨⟩) fun h => by cases h.1
  | false =>
    have hub : u.isBlocked = false := by rw [hframe]; exact hblocked
    have huidle : u.constraintManager.isEvaluation = false := by rw [hframe]; exact hidle
    cases hready : s.isServiceReady with
    | true =>
      have hcharge := hreg.charge hready
      have hdark := (transitToDark_spec cfg p hstate hub huidle
        (by rw [hframe]; exact hcharge) rfl).1
      rw [hcharging, hact] at hdark
      exact iff_of_true hdark ⟨rfl, rfl⟩
    | false =>
      have htr : t.isServiceReady = false := by
        rw [← hact, transitToDark_isServiceReady hstate hub huidle
          (by rw [hframe]; exact hreg.empty hready), hframe]
        exact hready
      rw [ht.notReady htr]
      exact iff_of_false (by rintro ⟨⟩) fun h => by cases h.2

/-- The platform while the battery is charging. -/
def chargingPlatform : Platform := { samplePlatform with isCharging := true }

/-- The screen goes off while the device is charging: WORKING is blocked, and stays so when the
charging ends. -/
def chargedRun : List Action :=
  .initReadyState samplePlatform :: handling .screenOff chargingPlatform

/-- DARK does not always begin: after a block from charging, DISCHARGING finds WORKING blocked. -/
theorem enterDark_not_always : ¬ ∀ (cfg : StandbyConfig) (s t : Service) (p : Platform)
    (action : CommonEvent) (queue : List StandbyMessage),
    Lts.Reachable (system cfg) s → s.curState = .working → s.isEvalution = false →
    s.handler.queue = .commonEvent action :: queue →
    action = .screenOff ∨ action = .discharging ∨ action = .usbDeviceDetached →
    screenOnAfter action s = false → p.isCharging = false →
    (system cfg).step s (.dispatch p) = some t → t.curState = .dark := by
  intro h
  obtain ⟨s, t, hr, hs, hcur, hev, hqueue, hscreen, ht⟩ := (system sampleConfig).exists_step
    (chargedRun ++ [.post (.commonEvent .discharging)]) (.dispatch samplePlatform)
    (fun s t => s.curState = .working ∧ s.isEvalution = false ∧
      s.handler.queue = [.commonEvent .discharging] ∧ s.isScreenOn = false ∧
      t.curState = .working) (by decide)
  have hdark := h sampleConfig s t samplePlatform .discharging [] hr hcur hev hqueue
    (.inr (.inl rfl)) hscreen rfl hs
  rw [hdark] at ht
  cases ht

/-- The first SCREEN_OFF begins DARK. -/
theorem enterDark_first : ∃ s t, Lts.Reachable (system sampleConfig) s ∧
    (system sampleConfig).step s (.dispatch samplePlatform) = some t ∧ t.curState = .dark := by
  obtain ⟨s, t, hr, hs, hcur, hev, hqueue, hblocked, hready⟩ := (system sampleConfig).exists_step
    [.initReadyState samplePlatform, .post (.commonEvent .screenOff)] (.dispatch samplePlatform)
    (fun s _ => s.curState = .working ∧ s.isEvalution = false ∧
      s.handler.queue = [.commonEvent .screenOff] ∧ s.isBlocked = false ∧
      s.isServiceReady = true) (by decide)
  exact ⟨s, t, hr, hs, (enterDark_iff hr hcur hev hqueue (.inl rfl) rfl rfl hs).2
    ⟨hblocked, hready⟩⟩

end

end DeviceStandby
