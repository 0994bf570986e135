import DeviceStandby.State.Evaluation
import DeviceStandby.State.History

/-!
# The device stays awake while the screen is on

SCREEN_ON enters WORKING, but nothing holds the device there. The task of `StartTransitNextState`
reads its next state only when it runs and does not ask whether its state is still current, so a
callback that was in flight when SCREEN_ON stopped its timer takes the device out of WORKING again.
`KeepsAwake` lists the steps that do so; in the runs without them the device is in WORKING and not
blocked for as long as the screen is on (`awake_while_screen_on`).
-/

namespace DeviceStandby

open Relation

/-! ## The screen, as the history tells it -/

/-- The latest event of the screen that was handled is SCREEN_ON. -/
def screenOn : List Trace → Bool
  | [] => false
  | .handled .screenOn :: _ => true
  | .handled .screenOff :: _ => false
  | _ :: rest => screenOn rest

/-- Without SCREEN_ON among the new entries, the screen was on before. -/
theorem screenOn_append {entries trace : List Trace} (hon : .handled .screenOn ∉ entries)
    (h : screenOn (entries ++ trace) = true) :
    screenOn trace = true ∧ .handled .screenOff ∉ entries := by
  induction entries with
  | nil => exact ⟨h, List.not_mem_nil⟩
  | cons entry entries ih =>
    have hrest : .handled .screenOn ∉ entries := fun hm => hon (List.mem_cons_of_mem _ hm)
    by_cases hoff : entry = .handled .screenOff
    · subst hoff
      cases h
    · have hne : entry ≠ .handled .screenOn := fun he => hon (he ▸ List.mem_cons_self)
      have hstep : screenOn (entry :: (entries ++ trace)) = screenOn (entries ++ trace) := by
        rw [screenOn] <;> assumption
      rw [List.cons_append, hstep] at h
      obtain ⟨hs, hn⟩ := ih hrest h
      refine ⟨hs, fun hm => ?_⟩
      rcases List.mem_cons.1 hm with hm | hm
      · exact hoff hm.symm
      · exact hn hm

/-- SCREEN_ON was handled and SCREEN_OFF was not since, in a history without ENTER_FORCE_SLEEP. -/
structure ScreenHeldOn (s : Service) : Prop where
  on : screenOn s.trace = true
  unforced : .handled .enterForceSleep ∉ s.trace

/-- WORKING is current and not blocked. -/
structure Awake (s : Service) : Prop where
  curState : s.curState = .working
  isBlocked : s.isBlocked = false

/-- While the screen is on, no step leaves or blocks WORKING, and SCREEN_ON itself does not end a
blocked stay in MAINTENANCE. -/
structure KeepsAwake (cfg : StandbyConfig) (s : Service) (a : Action) : Prop where
  screenOn : Handles s a .screenOn → s.curState = .maintenance → s.isBlocked = false
  /-- The state manager takes the screen to be on, as it may not after a restart, when another
  event is handled or the screen is checked. -/
  event : ScreenHeldOn s → ∀ action, Handles s a action → action ≠ .screenOn →
    action ≠ .screenOff → s.isScreenOn = true
  check : ScreenHeldOn s → ∀ p, a = .runTask .checkScreenStatus p → s.isScreenOn = true
  /-- No transition task that was left over asks for another state. -/
  transit : ScreenHeldOn s → ∀ state p, a = .runTask (.transitNextState state) p →
    nextStateOf cfg state s = .working
  /-- No motion result ends an evaluation. -/
  result : ScreenHeldOn s → ∀ task p, a = .runTask task p →
    task = .motionTotalTimeOut ∨ task = .motionDetected → s.isEvalution = false
  /-- A repeated detection that was left over does not end at once. -/
  repeated : ScreenHeldOn s → ∀ p, a = .runTask .repeatedDetection p →
    s.constraintManager.isEvaluation = true ∨ ∃ m monitor,
      s.constraintManager.constraintMap.lookup (ConstraintEvalParam.getHashValue
        ⟨.sleep, s.sleepState.curPhase, .sleep, s.sleepState.curPhase, true⟩) = some m ∧
      m.kind ≠ .charge ∧ (s.monitors m).startMonitoringInner p m.kind = (.ok, monitor)
  /-- The sensors of a periodic detection start. -/
  sensor : ScreenHeldOn s → ∀ m p, a = .runTask (.periodlyStartMotionDetection m) p →
    ∃ monitor, (s.monitors m).startMonitoringInner p m.kind = (.ok, monitor)

section
variable {cfg : StandbyConfig} {s₀ : Service} {a : Action} {p : Platform} {s t : Service}

/-! ## Steps of a device that is awake -/

theorem Awake.of_eq (h : Awake s) (heq : t.toStateManagerAdapter = s.toStateManagerAdapter) :
    Awake t :=
  ⟨(congrArg StateManagerAdapter.curState heq).trans h.curState,
    (congrArg StateManagerAdapter.isBlocked heq).trans h.isBlocked⟩

/-- Asking for WORKING again changes nothing. -/
theorem Awake.transitToWorking (h : Awake s) : Awake (transitToWorking cfg p s) := by
  rw [transitToWorking_eq, if_pos h.curState]
  exact ⟨h.curState, rfl⟩

/-- SCREEN_ON wakes the device, unless it keeps a block of MAINTENANCE. -/
theorem awake_screenOn (hmaint : s.curState = .maintenance → s.isBlocked = false) :
    Awake (handleCommonEvent cfg p .screenOn s) := by
  rw [handleCommonEvent_eq, respond, if_pos (by rfl)]
  obtain ⟨_, _, _, hframe⟩ := recordEvent_frame cfg p .screenOn s
  have hscreen : (recordEvent cfg p .screenOn s).isScreenOn = true :=
    recordEvent_isScreenOn cfg p .screenOn s
  have hcur : (recordEvent cfg p .screenOn s).curState = s.curState := by rw [hframe]
  have hblocked : (recordEvent cfg p .screenOn s).isBlocked = s.isBlocked := by rw [hframe]
  have hwake : Awake (transitToWorking cfg p (recordEvent cfg p .screenOn s)) ∧
      (transitToWorking cfg p (recordEvent cfg p .screenOn s)).isScreenOn = true := by
    by_cases hw : (recordEvent cfg p .screenOn s).curState = .working
    · rw [transitToWorking_eq, if_pos hw]
      exact ⟨⟨hw, rfl⟩, hscreen⟩
    · obtain ⟨hb, -, -, hs⟩ := transitToWorking_flags cfg p hw
      refine ⟨⟨transitToWorking_curState, ?_⟩, hs.trans hscreen⟩
      rw [hb, hcur, hblocked]
      by_cases hm : s.curState = .maintenance
      · rw [hmaint hm]
        rfl
      · simp [hm]
  rw [tryEnterDark_eq, if_neg]
  · exact hwake.1
  · intro h
    rw [hwake.2] at h
    cases h.2

/-- Another event leaves an awake device with the screen on awake, forced sleep aside. -/
theorem Awake.handleCommonEvent {action : CommonEvent} (h : Awake s) (hscreen : s.isScreenOn = true)
    (hoff : action ≠ .screenOff) (hforce : action ≠ .enterForceSleep) :
    Awake (handleCommonEvent cfg p action s) := by
  rw [handleCommonEvent_eq]
  obtain ⟨_, _, _, hframe⟩ := recordEvent_frame cfg p action s
  have hon : (recordEvent cfg p action s).isScreenOn = true := by
    rw [recordEvent_isScreenOn]
    cases action with
    | screenOff => exact absurd rfl hoff
    | _ => first | rfl | exact hscreen
  have hawake : Awake (recordEvent cfg p action s) := by
    rw [hframe]
    exact ⟨h.curState, h.isBlocked⟩
  have hrespond : Awake (respond cfg p action (recordEvent cfg p action s)) ∧
      (respond cfg p action (recordEvent cfg p action s)).isScreenOn = true := by
    unfold respond
    split_ifs with hwake
    · refine ⟨hawake.transitToWorking, ?_⟩
      rw [transitToWorking_eq, if_pos hawake.curState]
      exact hon
    · cases action with
      | screenOn | screenUnlocked | charging | usbDeviceAttached | lidOpen =>
        exact absurd rfl hwake
      | screenOff => exact absurd rfl hoff
      | enterForceSleep => exact absurd rfl hforce
      | discharging | usbDeviceDetached | other => exact ⟨hawake, hon⟩
      | userSleepStateChanged isSleep =>
        have hstay : ∀ u : Service, u.isScreenOn = true →
            handleUserSleepState cfg p isSleep u = u := fun u hu => by
          unfold handleUserSleepState
          rw [if_pos hu]
        rw [handleAction, hstay _ hon]
        exact ⟨hawake, hon⟩
  rw [tryEnterDark_eq, if_neg]
  · exact hrespond.1
  · intro hdark
    rw [hrespond.2] at hdark
    cases hdark.2

/-- A transition task whose next state is WORKING only stops the evaluation. -/
theorem Awake.runTransitNextState {state : StandbyState} (h : Awake s)
    (hnext : nextStateOf cfg state s = .working) : Awake (runTransitNextState cfg p state s) := by
  obtain ⟨_, _, _, _, hstop⟩ := stopEvalution_frame (s := s.acquireStandbyRunningLock)
  have hnext' : nextStateOf cfg state (stopEvalution s.acquireStandbyRunningLock) = .working := by
    rw [hstop, ← hnext]
    cases state <;> rfl
  have hcur : (stopEvalution s.acquireStandbyRunningLock).curState = .working := by
    rw [hstop]
    exact h.curState
  simp only [DeviceStandby.runTransitNextState, hnext', transitToState, transitToStateWith, hcur,
    checkTransitionValid, not_true_eq_false, if_false, if_true]
  exact ⟨hcur, rfl⟩

/-- A motion result without an evaluation is ignored. -/
theorem Awake.endEvalCurrentState {evalResult : Bool} (h : Awake s)
    (hidle : s.isEvalution = false) : Awake (endEvalCurrentState cfg p evalResult s) := by
  rw [DeviceStandby.endEvalCurrentState, if_pos]
  · exact h
  · rw [hidle]
    exact Bool.false_ne_true

/-- Sensors that start block nothing. -/
theorem Awake.periodlyStartMotionDetection {m : Monitor} {monitor : MotionSensorMonitor}
    (h : Awake s) (hok : (s.monitors m).startMonitoringInner p m.kind = (.ok, monitor)) :
    Awake (periodlyStartMotionDetection cfg p m s) := by
  rw [DeviceStandby.periodlyStartMotionDetection, hok]
  exact ⟨h.curState, h.isBlocked⟩

/-- A request that is refused or that waits for a motion blocks nothing. -/
theorem Awake.startEvalCurrentState {params : ConstraintEvalParam} (h : Awake s)
    (hwait : s.constraintManager.isEvaluation = true ∨ ∃ m monitor,
      s.constraintManager.constraintMap.lookup params.getHashValue = some m ∧
      m.kind ≠ .charge ∧ (s.monitors m).startMonitoringInner p m.kind = (.ok, monitor)) :
    Awake (startEvalCurrentState cfg p params s) := by
  simp only [DeviceStandby.startEvalCurrentState, ConstraintManagerAdapter.startEvalution]
  split
  case isTrue => exact ⟨h.curState, h.isBlocked⟩
  case isFalse hidle =>
    obtain ⟨m, monitor, hlookup, hkind, hok⟩ := hwait.resolve_left hidle
    rw [hlookup]
    simp only [startMonitoring]
    cases hk : m.kind with
    | charge => exact absurd hk hkind
    | motion | repeatedMotion =>
      rw [hk] at hok
      exact Awake.periodlyStartMotionDetection ⟨h.curState, h.isBlocked⟩ (by rw [hk]; exact hok)

/-- A pending task leaves an awake device awake under `KeepsAwake`. -/
theorem Awake.runTask {task : Task} (hown : OwnTasks s) (hheld : ScreenHeldOn s)
    (hok : KeepsAwake cfg s (.runTask task p)) (hmem : task ∈ s.handler.tasks) (h : Awake s) :
    Awake (runTask cfg p task { s with handler.tasks := s.handler.tasks.erase task }) := by
  have h' : Awake { s with handler.tasks := s.handler.tasks.erase task } :=
    ⟨h.curState, h.isBlocked⟩
  cases task with
  | transitNextState state =>
    refine h'.runTransitNextState ?_
    rw [← hok.transit hheld state p rfl]
    cases state <;> rfl
  | checkScreenStatus =>
    rw [DeviceStandby.runTask, WorkingState.checkScreenStatus, if_neg]
    · exact h'
    · exact fun hoff => hoff (hok.check hheld p rfl)
  | transitToNapPhase acquire =>
    have hcur := hown.napPhase acquire hmem
    rw [h.curState] at hcur
    cases hcur
  | transitToSleepPhase acquire =>
    have hcur := hown.sleepPhase acquire hmem
    rw [h.curState] at hcur
    cases hcur
  | repeatedDetection =>
    exact Awake.startEvalCurrentState ⟨h.curState, h.isBlocked⟩ (hok.repeated hheld p rfl)
  | motionTotalTimeOut => exact h'.endEvalCurrentState (hok.result hheld _ p rfl (.inl rfl))
  | motionDetected => exact h'.endEvalCurrentState (hok.result hheld _ p rfl (.inr rfl))
  | stopMotionDetection m => exact ⟨h.curState, h.isBlocked⟩
  | periodlyStartMotionDetection m =>
    obtain ⟨monitor, hstart⟩ := hok.sensor hheld m p rfl
    exact h'.periodlyStartMotionDetection hstart

/-- A step other than an event of the screen, and other than forced sleep, leaves an awake device
awake under `KeepsAwake`. -/
theorem Awake.act (hown : OwnTasks s) (hheld : ScreenHeldOn s) (hok : KeepsAwake cfg s a)
    (hevent : ∀ action, Handles s a action →
      action ≠ .screenOn ∧ action ≠ .screenOff ∧ action ≠ .enterForceSleep)
    (hact : act cfg s a = some t) (h : Awake s) : Awake t := by
  cases a with
  | timerFire callback =>
    obtain ⟨_, rfl⟩ := timerFire_frame hact
    exact ⟨h.curState, h.isBlocked⟩
  | timerCallback callback =>
    obtain ⟨-, rfl⟩ := act_timerCallback hact
    cases callback with
    | startTransitNextState | startPeriodlyMotionDetection => exact ⟨h.curState, h.isBlocked⟩
    | screenOffHalfHour => exact h.of_eq onScreenOffHalfHourInner_toStateManagerAdapter
  | sensorEvent m =>
    obtain ⟨-, rfl⟩ := act_sensorEvent hact
    exact ⟨h.curState, h.isBlocked⟩
  | runTask task p =>
    obtain ⟨hmem, rfl⟩ := act_runTask hact
    exact h.runTask hown hheld hok hmem
  | post message =>
    obtain ⟨-, rfl⟩ := act_post hact
    exact ⟨h.curState, h.isBlocked⟩
  | dispatch p =>
    obtain ⟨message, queue, hqueue, rfl⟩ := act_dispatch hact
    unfold handleEvent
    split
    · rename_i action
      have hh : Handles s (.dispatch p) action := ⟨p, rfl, queue, hqueue⟩
      obtain ⟨hon, hoff, hforce⟩ := hevent action hh
      exact Awake.handleCommonEvent ⟨h.curState, h.isBlocked⟩
        (hok.event hheld action hh hon hoff) hoff hforce
    · exact ⟨h.curState, h.isBlocked⟩
  | dayNightSwitch condition =>
    cases hact
    split_ifs <;> exact ⟨h.curState, h.isBlocked⟩
  | initReadyState p =>
    obtain ⟨-, rfl⟩ := act_initReadyState hact
    cases hready : s.isServiceReady with
    | true =>
      rw [initReadyState_of_ready hready]
      exact h
    | false =>
      obtain ⟨_, _, hf⟩ := initReadyState_frame cfg p hready
      rw [hf]
      exact ⟨rfl, h.isBlocked⟩
  | uninitReadyState p =>
    cases hact
    unfold uninitReadyState
    split_ifs
    · have hwake : Awake (DeviceStandby.transitToWorking cfg p
          (ConstraintManagerAdapter.unInit s)) :=
        Awake.transitToWorking ⟨h.curState, h.isBlocked⟩
      obtain ⟨_, _, hf⟩ := StateManagerAdapter.resetStates_frame cfg
        (DeviceStandby.transitToWorking cfg p (ConstraintManagerAdapter.unInit s))
      simp only [StateManagerAdapter.unInit, transitToState_working, hf]
      exact ⟨hwake.curState, hwake.isBlocked⟩
    · exact h

/-- A step under `KeepsAwake` keeps the device awake while the screen is on. -/
theorem awake_step (hown : OwnTasks s) (hok : KeepsAwake cfg s a) (hact : act cfg s a = some t)
    (halive : t.crashed = false) (h : ScreenHeldOn s → Awake s) (hheld : ScreenHeldOn t) :
    Awake t := by
  obtain ⟨entries, htrace, hhandled⟩ := act_trace hown hact halive
  by_cases hon : Handles s a .screenOn
  · obtain ⟨p, rfl, queue, hqueue⟩ := hon
    obtain rfl := act_commonEvent hqueue hact
    exact awake_screenOn (hok.screenOn ⟨p, rfl, queue, hqueue⟩)
  · -- the screen was on before, and the step handles neither SCREEN_OFF nor forced sleep
    obtain ⟨htrace_on, hoff⟩ := screenOn_append (fun hm => hon ((hhandled _).1 hm))
      (htrace ▸ hheld.on)
    have hforce : .handled .enterForceSleep ∉ entries ++ s.trace := htrace ▸ hheld.unforced
    have hheld₀ : ScreenHeldOn s :=
      ⟨htrace_on, fun hm => hforce (List.mem_append_right _ hm)⟩
    refine (h hheld₀).act hown hheld₀ hok (fun action hh => ⟨?_, ?_, ?_⟩) hact
    · rintro rfl
      exact hon hh
    · rintro rfl
      exact hoff ((hhandled _).2 hh)
    · rintro rfl
      exact hforce (List.mem_append_left _ ((hhandled _).2 hh))

/-! ## Runs -/

/-- In every run whose steps meet `KeepsAwake`, the device is in WORKING and not blocked while the
screen is on, whether or not `StopTimer` leaves a callback in flight. -/
theorem awake_while_screen_on (h : Lts.ReachableUnder (system cfg) (KeepsAwake cfg) s)
    (hheld : ScreenHeldOn s) : s.curState = .working ∧ s.isBlocked = false := by
  have hawake : ScreenHeldOn s → Awake s := by
    refine h.invariant (I := fun s => ScreenHeldOn s → Awake s) ?_ ?_
    · intro hheld
      cases hheld.on
    · intro s t a hr hok hstep ih
      obtain ⟨hact, halive⟩ := (system_step_iff cfg).1 hstep
      exact awake_step (ownTasks_reachable hr) hok hact halive ih
  exact ⟨(hawake hheld).curState, (hawake hheld).isBlocked⟩

/-- A test that suffices for `KeepsAwake`: an event is handled outside of MAINTENANCE and in a state
that takes the screen to be as it is, and tasks run with the screen off. -/
def awakeTest (s : Service) (a : Action) : Bool :=
  match a with
  | .dispatch _ => s.curState ≠ .maintenance ∧ (screenOn s.trace = true → s.isScreenOn = true)
  | .runTask _ _ => screenOn s.trace = false
  | _ => true

theorem keepsAwake_of_test (s : Service) (a : Action) (h : awakeTest s a = true) :
    KeepsAwake cfg s a := by
  have hdispatch : ∀ action, Handles s a action →
      s.curState ≠ .maintenance ∧ (screenOn s.trace = true → s.isScreenOn = true) := by
    rintro action ⟨p, rfl, -⟩
    exact of_decide_eq_true h
  have htask : ScreenHeldOn s → ∀ task p, a ≠ .runTask task p := by
    rintro hheld task p rfl
    have hoff : screenOn s.trace = false := of_decide_eq_true h
    rw [hheld.on] at hoff
    cases hoff
  exact {
    screenOn := fun hh hmaint => absurd hmaint (hdispatch _ hh).1
    event := fun hheld action hh _ _ => (hdispatch action hh).2 hheld.on
    check := fun hheld _ ha => absurd ha (htask hheld _ _)
    transit := fun hheld _ _ ha => absurd ha (htask hheld _ _)
    result := fun hheld _ _ ha => absurd ha (htask hheld _ _)
    repeated := fun hheld _ ha => absurd ha (htask hheld _ _)
    sensor := fun hheld _ _ ha => absurd ha (htask hheld _ _) }

/-- SCREEN_ON ends the SLEEP that NAP has led to, and user sleep does not bring it back. -/
theorem awake_after_sleep : ∃ s, Lts.Reachable (system sampleConfig) s ∧
    .transited .sleep .working ∈ s.trace ∧
    s.trace.head? = some (.handled (.userSleepStateChanged (some true))) ∧
    s.curState = .working ∧ s.isBlocked = false := by
  obtain ⟨s, hr, hs⟩ := (system sampleConfig).exists_check (KeepsAwake sampleConfig) awakeTest
    keepsAwake_of_test (fun s => .transited .sleep .working ∈ s.trace ∧
      s.trace.head? = some (.handled (.userSleepStateChanged (some true))) ∧
      screenOn s.trace = true ∧ .handled .enterForceSleep ∉ s.trace)
    (evaluatingRun ++ .runTask .motionTotalTimeOut samplePlatform ::
      handling .screenOn samplePlatform ++ [.dispatch samplePlatform, .dispatch samplePlatform] ++
      handling (.userSleepStateChanged (some true)) samplePlatform)
    (by decide)
  obtain ⟨hwoken, hlast, hon, hunforced⟩ := of_decide_eq_true hs
  exact ⟨s, hr.reachable, hwoken, hlast, awake_while_screen_on hr ⟨hon, hunforced⟩⟩

/-- Not in every run: the callback of DARK's timer was in flight when SCREEN_ON stopped the timer,
and its task takes the device from WORKING to DARK. -/
theorem not_awake_while_screen_on : ¬ ∀ (cfg : StandbyConfig) (s : Service),
    Lts.Reachable (system cfg) s → ScreenHeldOn s →
      s.curState = .working ∧ s.isBlocked = false := by
  intro h
  obtain ⟨s, hr, hon, hunforced, hcur⟩ := (system { sampleConfig with
      stopTimerDrains := false }).exists_run
    ([.initReadyState { samplePlatform with isScreenOn := false },
      .runTask .checkScreenStatus samplePlatform, .timerFire (.startTransitNextState .dark),
      .dispatch samplePlatform] ++
      handling .screenOn samplePlatform ++
      [.timerCallback (.startTransitNextState .dark),
        .runTask (.transitNextState .dark) samplePlatform])
    (Lts.System.runMeets_of_forall (fun _ _ => True) fun _ _ _ => trivial)
    (fun s => screenOn s.trace = true ∧ .handled .enterForceSleep ∉ s.trace ∧
      s.curState = .dark) (by decide)
  have hworking := (h _ s hr ⟨hon, hunforced⟩).1
  rw [hcur] at hworking
  cases hworking

end

end DeviceStandby
